import RecordMap.Sql.Bytes
import RecordMap.Numeral.Extended
import RecordMap.Numeral.Width

/-!
# Reading numbers from text

`readReal` reads the longest numeric prefix of some bytes as the engine does: blanks are
skipped, then a sign, up to nineteen significant digits (later ones only move the point), a
fraction, and an exponent whose size is capped at 10000. The digits become a 64-bit integer
`s` and a power of ten `e`; `e` is first made as small as possible while `s` stays below
`2 ^ 64`, and then `s` is scaled by powers of ten in extended precision — by `10 ^ 100`, then
`10 ^ 10`, then `10` — before one last rounding to a double.

Its verdict says what the whole text was: not a number, a number with a point or an exponent
followed by other text, an integer, or a number with a point or an exponent.

`readInt` reads the longest integer prefix, clamped to the 64-bit range, with a verdict that
separates a fitting integer, one followed by other text, no digits at all, an overflow, and
exactly `2 ^ 63`, which fits only as a negative number.
-/

namespace RecordMap.Sql

open RecordMap.Numeral

/-- What a text read as a number was, judged on the whole text. -/
inductive RealVerdict where
  /-- No number, or an integer followed by other text. -/
  | none
  /-- A number with a point or an exponent, followed by other text. -/
  | prefixOnly
  /-- An integer, blanks around it allowed. -/
  | integer
  /-- A number with a point or an exponent, blanks around it allowed. -/
  | real
  deriving Repr, DecidableEq, Inhabited

/-- The reading of a text as a double. -/
structure RealReading where
  verdict : RealVerdict
  value : Float
  deriving Inhabited

/-- The largest significand that takes another digit. -/
def significandLimit : Nat := (Nat.pow 2 64 - 1 - 9) / 10

/-- Integer digits: the significand, the digit count and the shift from dropped digits. -/
def readWhole (s n d : Nat) : Bytes → Nat × Nat × Nat × Bytes
  | b :: rest =>
    if isDigitByte b then
      if s ≥ significandLimit then readWhole s n (d + 1) rest
      else readWhole (s * 10 + (b.toNat - 48)) (n + 1) d rest
    else (s, n, d, b :: rest)
  | [] => (s, n, d, [])

/-- Fraction digits: each one taken lowers the point. -/
def readFraction (s n : Nat) (d : Int) : Bytes → Nat × Nat × Int × Bytes
  | b :: rest =>
    if isDigitByte b then
      if s < significandLimit then readFraction (s * 10 + (b.toNat - 48)) (n + 1) (d - 1) rest
      else readFraction s n d rest
    else (s, n, d, b :: rest)
  | [] => (s, n, d, [])

/-- Exponent digits, capped at 10000: the value, whether any digit was seen, and the rest. -/
def readExponentDigits (e : Nat) (seen : Bool) : Bytes → Nat × Bool × Bytes
  | b :: rest =>
    if isDigitByte b then
      readExponentDigits (if e < 10000 then e * 10 + (b.toNat - 48) else 10000) true rest
    else (e, seen, b :: rest)
  | [] => (e, seen, [])

/-- A sign in front: whether it is a minus, and the rest. -/
def readSign : Bytes → Bool × Bytes
  | 45 :: rest => (true, rest)
  | 43 :: rest => (false, rest)
  | bs => (false, bs)

/-- Moves powers of ten into the significand while it stays below `2 ^ 64`, then drops
trailing zeros into the exponent. -/
def balance (s : Nat) (e : Int) : Nat × Int :=
  let up := go s e 400
  down up.1 up.2 400
where
  go (s : Nat) (e : Int) : Nat → Nat × Int
    | 0 => (s, e)
    | fuel + 1 => if e > 0 && s < (Nat.pow 2 64 - 1 - 0x7FF) / 10 then go (s * 10) (e - 1) fuel else (s, e)
  down (s : Nat) (e : Int) : Nat → Nat × Int
    | 0 => (s, e)
    | fuel + 1 => if e < 0 && s % 10 == 0 then down (s / 10) (e + 1) fuel else (s, e)

/-- Multiplies by a power of ten `step` times over while the exponent allows. -/
def scaleBy (factor : Extended) (step : Nat) (up : Bool) : Nat → Extended × Int → Extended × Int
  | 0, acc => acc
  | fuel + 1, (r, e) =>
    if up && e ≥ step then scaleBy factor step up fuel (r.mul factor, e - step)
    else if !up && e ≤ -(step : Int) then scaleBy factor step up fuel (r.mul factor, e + step)
    else (r, e)

/-- The double of `s · 10 ^ e` computed as the engine does. -/
def scaledDouble (s : Nat) (e : Int) : Float :=
  if e == 0 then nearestDouble s 1 else
  let r := Extended.ofNat s
  let (r, _) :=
    if e > 0 then
      let acc := scaleBy (Extended.tenTo 100) 100 true 400 (r, e)
      let acc := scaleBy (Extended.tenTo 10) 10 true 400 acc
      scaleBy (Extended.ofNat 10) 1 true 400 acc
    else
      let acc := scaleBy (Extended.tenToMinus 100) 100 false 400 (r, e)
      let acc := scaleBy (Extended.tenToMinus 10) 10 false 400 acc
      scaleBy (Extended.tenToMinus 1) 1 false 400 acc
  if Extended.largestDouble.lt r then positiveInfinity else r.toFloat

/-- Reads the longest numeric prefix of some bytes. -/
def readReal (text : Bytes) : RealReading :=
  let cs := dropSpaces text
  if cs.isEmpty then ⟨.none, 0.0⟩ else
  let (neg, cs) := readSign cs
  let (s, n, d, cs) := readWhole 0 0 0 cs
  let (point, s, n, d, cs) : Bool × Nat × Nat × Int × Bytes := match cs with
    | 46 :: rest =>
      let (s, n, d, rest) := readFraction s n d rest
      (true, s, n, d, rest)
    | _ => (false, s, n, d, cs)
  let (hasExp, expValid, expVal, cs) : Bool × Bool × Int × Bytes := match cs with
    | b :: rest =>
      if b == 101 || b == 69 then
        match rest with
        | [] => (true, false, 0, [])
        | _ =>
          let (eneg, rest) := readSign rest
          let (e, seen, rest) := readExponentDigits 0 false rest
          (true, seen, if eneg then -(e : Int) else e, rest)
      else (false, true, 0, cs)
    | [] => (false, true, 0, [])
  let cs := dropSpaces cs
  let kind : Nat := 1 + (if point then 1 else 0) + (if hasExp then 1 else 0)
  let magnitude :=
    if s == 0 then 0.0
    else
      let (s, e) := balance s (expVal + d)
      scaledDouble s e
  let value := if neg then -magnitude else magnitude
  let verdict :=
    if cs.isEmpty && n > 0 && expValid then (if kind == 1 then .integer else .real)
    else if kind ≥ 2 && (kind == 3 || expValid) && n > 0 then .prefixOnly
    else .none
  ⟨verdict, value⟩

/-- How an integer prefix ended. -/
inductive IntVerdict where
  /-- The whole text (blanks around allowed) is an integer that fits. -/
  | exact
  /-- Other text follows the integer. -/
  | extra
  /-- No digits. -/
  | empty
  /-- Beyond the 64-bit range. -/
  | overflow
  /-- Exactly `2 ^ 63`, which fits only as a negative number. -/
  | edge
  deriving Repr, DecidableEq, Inhabited

/-- The reading of an integer prefix: how it ended and its value, clamped to 64 bits. -/
structure IntReading where
  verdict : IntVerdict
  value : Int
  deriving Repr, Inhabited

/-- Whether the verdict admits the value as an integer with at most other text after it. -/
def IntVerdict.fits : IntVerdict → Bool
  | .exact | .extra | .empty => true
  | _ => false

/-- Reads the longest integer prefix of some bytes. -/
def readInt (text : Bytes) : IntReading :=
  let cs := dropSpaces text
  let (neg, cs) := readSign cs
  let afterSign := cs
  let cs := cs.dropWhile (· == 48)
  let digits := cs.takeWhile isDigitByte
  let rest := cs.drop digits.length
  let u : Nat := digits.foldl (fun n b => 10 * n + (b.toNat - 48)) 0
  let value : Int := clampI64 (if neg then -(u : Int) else u)
  let base : IntVerdict :=
    if digits.isEmpty && afterSign.length == cs.length then .empty
    else if rest.all isSpaceByte then .exact else .extra
  let verdict :=
    if digits.length < 19 then base
    else if u < Nat.pow 2 63 then base
    else if u == Nat.pow 2 63 && digits.length == 19 then (if neg then base else .edge)
    else .overflow
  ⟨verdict, value⟩

end RecordMap.Sql
