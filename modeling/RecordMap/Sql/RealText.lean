import RecordMap.Numeral.Extended
import RecordMap.Numeral.Integral

/-!
# The decimal digits of a double

`decodeDigits r round maxDigits` finds the decimal digits of a double the way the engine does:
the magnitude is scaled by powers of ten in extended precision until it lies between `10 ^ 17`
and `10 ^ 19`, the integer part is taken as a run of 18 or 19 digits, and the digit string is
then rounded, a five or more rounding up, to `round` significant digits (or, when `round ≤ 0`,
to `-round` digits after the point), never keeping more than `maxDigits`. Trailing zeros are
dropped.

`FloatFormat.render` writes a double as the engine's `printf` does for `%f`, `%e` and `%g`,
with its flags, and `realText` is the `%!.15g` form in which the engine turns a double into
text: fifteen significant digits, trailing zeros dropped but one digit kept after the point,
and an exponent when the decimal exponent is below -4 or above 14.
-/

namespace RecordMap.Sql

open RecordMap.Numeral

/-- What is special about a double. -/
inductive Special where
  | finite
  | infinite
  | nan
  deriving Repr, DecidableEq, Inhabited

/-- The decimal digits of a double: its sign, the digits (most significant first, no trailing
zeros), and the position of the decimal point: the value is `0.d₁d₂… · 10 ^ point`. -/
structure DecimalDigits where
  negative : Bool
  special : Special
  digits : List Nat
  point : Int
  deriving Repr, Inhabited

/-- Divides by powers of ten while the value is at least `bound`: `step` is the power, `scale`
its rounded reciprocal. -/
def scaleDown (bound scale : Extended) (step : Int) : Nat → Extended × Int → Extended × Int
  | 0, acc => acc
  | fuel + 1, (r, e) =>
    if r.ge bound then scaleDown bound scale step fuel (r.mul scale, e + step) else (r, e)

/-- Multiplies by powers of ten while the value is below `bound`. -/
def scaleUp (bound scale : Extended) (step : Int) : Nat → Extended × Int → Extended × Int
  | 0, acc => acc
  | fuel + 1, (r, e) =>
    if r.lt bound then scaleUp bound scale step fuel (r.mul scale, e - step) else (r, e)

/-- The decimal digits of a natural, most significant first. -/
def natDigits (n : Nat) : List Nat := (Nat.toDigits 10 n).map fun c => c.toNat - 48

/-- Adds one to the last of some digits, carrying: the digits and whether a new leading one was
needed. -/
def incrementDigits (ds : List Nat) : List Nat × Bool :=
  let (out, carry) := ds.foldr (fun d (acc, carry) =>
    if carry then (if d == 9 then (0 :: acc, true) else ((d + 1) :: acc, false)) else (d :: acc, false))
    ([], true)
  if carry then (1 :: out, true) else (out, false)

/-- The digits with trailing zeros dropped. -/
def dropTrailingZeros (ds : List Nat) : List Nat := (ds.reverse.dropWhile (· == 0)).reverse

/-- The digits of a finite positive double before rounding: 18 or 19 digits and the point. -/
def rawDigits (r : Float) : List Nat × Int :=
  let x := Extended.ofFloat r
  let (x, e) :=
    if x.ge (Extended.tenTo 19) then
      let acc := scaleDown (Extended.tenTo 119) (Extended.tenToMinus 100) 100 400 (x, 0)
      let acc := scaleDown (Extended.tenTo 29) (Extended.tenToMinus 10) 10 400 acc
      scaleDown (Extended.tenTo 19) (Extended.tenToMinus 1) 1 400 acc
    else
      let acc := scaleUp (Extended.tenToMinus 97) (Extended.tenTo 100) 100 400 (x, 0)
      let acc := scaleUp (Extended.tenTo 7) (Extended.tenTo 10) 10 400 acc
      scaleUp (Extended.tenTo 17) (Extended.ofNat 10) 1 400 acc
  let ds := natDigits x.floor
  (ds, (ds.length : Int) + e)

/-- The engine's decimal digits of a double. -/
def decodeDigits (r : Float) (round : Int) (maxDigits : Nat) : DecimalDigits :=
  match FloatShape.ofFloat r with
  | .nan => ⟨false, .nan, [], 0⟩
  | .infinite neg => ⟨neg, .infinite, [], 0⟩
  | .finite neg m _ =>
    if m = 0 then ⟨false, .finite, [0], 1⟩ else
    let r := if neg then -r else r
    let (ds, point) := rawDigits r
    -- rounding to a number of places after the point may first need a leading zero
    let (ds, point, round) :=
      if round ≤ 0 then
        let keep := point - round
        if keep == 0 && ds.headD 0 ≥ 5 then (0 :: ds, point + 1, (1 : Int)) else (ds, point, keep)
      else (ds, point, round)
    let (ds, point) :=
      if round > 0 && (round.toNat < ds.length || ds.length > maxDigits) then
        let keep := min round.toNat maxDigits
        -- a carry out of the first digit adds a digit in front: keep the count by the point
        let kept := ds.take keep
        if ds.getD keep 0 ≥ 5 then
          let (up, grew) := incrementDigits kept
          if grew then (up, point + 1) else (up, point)
        else (kept, point)
      else (ds, point)
    let ds := dropTrailingZeros ds
    ⟨neg, .finite, if ds.isEmpty then [0] else ds, point⟩

/-- Which conversion of `printf` writes a double. -/
inductive FloatKind where
  /-- `%f`: a fixed number of places. -/
  | fixed
  /-- `%e` and `%E`: one digit, the places, and an exponent. -/
  | exponent
  /-- `%g` and `%G`: significant digits, in the shorter of the two. -/
  | general
  deriving Repr, DecidableEq, Inhabited

/-- A `printf` conversion of a double, with its flags. -/
structure FloatFormat where
  kind : FloatKind
  /-- Capital `E` in the exponent. -/
  capital : Bool := false
  /-- The digits after the point (significant digits for `%g`); `none` for the default 6. -/
  precision : Option Nat := none
  width : Nat := 0
  /-- `-`: pad on the right. -/
  leftJustify : Bool := false
  /-- `0`: pad with zeros after the sign. -/
  zeroPad : Bool := false
  /-- `+` or a blank: the sign character written before a positive number. -/
  signChar : Option Char := none
  /-- `#`: keep the point and trailing zeros. -/
  alternate : Bool := false
  /-- `!`: up to 26 digits, and a `.0` kept after a whole number. -/
  extended : Bool := false
  /-- `,`: group the whole digits in threes. -/
  thousands : Bool := false
  deriving Repr, Inhabited

/-- The digit at a position, zero past the end. -/
def digitAt (ds : List Nat) (j : Nat) : Char := Char.ofNat (48 + ds.getD j 0)

/-- Pads a rendered number to the width: blanks in front or behind, or zeros after the sign. -/
def padNumber (f : FloatFormat) (signed : Bool) (s : String) : String :=
  let len := s.length
  if len ≥ f.width then s
  else if f.leftJustify then s ++ String.ofList (List.replicate (f.width - len) ' ')
  else if f.zeroPad then
    let cs := s.toList
    let (front, back) := if signed then (cs.take 1, cs.drop 1) else ([], cs)
    String.ofList (front ++ List.replicate (f.width - len) '0' ++ back)
  else String.ofList (List.replicate (f.width - len) ' ') ++ s

/-- The whole digits of a fixed rendering: one per place from `e2` down to 0, with commas. -/
def wholeDigits (f : FloatFormat) (ds : List Nat) (e2 : Nat) : List Char × Nat :=
  (List.range (e2 + 1)).foldl (fun (acc, j) k =>
    let place := e2 - k
    let acc := acc ++ [digitAt ds j]
    let acc := if f.thousands && place % 3 == 0 && place > 1 then acc ++ [','] else acc
    (acc, j + 1)) ([], 0)

/-- Writes a double as `printf` does, before padding: the text and whether it starts with a
sign character. -/
def FloatFormat.body (f : FloatFormat) (r : Float) : String × Bool :=
  let precision := f.precision.getD 6
  let precision := if f.kind == .general && precision == 0 then 1 else precision
  let round : Int := match f.kind with
    | .fixed => -(precision : Int)
    | .general => precision
    | .exponent => precision + 1
  let d := decodeDigits r round (if f.extended then 26 else 16)
  let special : Option (String × Bool) := match d.special with
    | .nan => some (if f.zeroPad then "null" else "NaN", false)
    | .infinite =>
      if f.zeroPad then none
      else if d.negative then some ("-Inf", true)
      else match f.signChar with
        | some c => some (c.toString ++ "Inf", true)
        | none => some ("Inf", false)
    | .finite => none
  match special with
  | some out => out
  | none =>
  let (ds, point) := if d.special == .infinite then ([9], (1000 : Int)) else (d.digits, d.point)
  let prefixChar : Option Char := if d.negative then some '-' else f.signChar
  let exp := point - 1
  let precision := if f.kind == .general && precision > 0 then precision - 1 else precision
  let (kind, precision, trimZeros) :=
    if f.kind == .general then
      if exp < -4 || exp > precision then (FloatKind.exponent, precision, !f.alternate)
      else (FloatKind.fixed, (precision - exp).toNat, !f.alternate)
    else (f.kind, precision, f.extended)
  let e2 : Int := if kind == .exponent then 0 else point - 1
  let withPoint := precision > 0 || f.alternate || f.extended
  let (whole, j) := if e2 < 0 then (['0'], 0) else wholeDigits f ds e2.toNat
  -- zeros after the point before the first significant digit
  let leadZeros := if e2 < 0 then min ((-(e2 + 1)).toNat) precision else 0
  let precision := precision - leadZeros
  let fracDigits := (List.range precision).map fun k => digitAt ds (j + k)
  let body := whole ++ (if withPoint then ['.'] else []) ++ List.replicate leadZeros '0' ++ fracDigits
  let body :=
    if trimZeros && withPoint then
      let trimmed := (body.reverse.dropWhile (· == '0')).reverse
      if trimmed.getLast? == some '.' then
        if f.extended then trimmed ++ ['0'] else trimmed.dropLast
      else trimmed
    else body
  let body := if kind == .exponent then
      let e := point - 1
      let a := e.natAbs
      let digits := (if a ≥ 100 then [Char.ofNat (48 + a / 100)] else []) ++
        [Char.ofNat (48 + a / 10 % 10), Char.ofNat (48 + a % 10)]
      body ++ [if f.capital then 'E' else 'e', if e < 0 then '-' else '+'] ++ digits
    else body
  match prefixChar with
  | some c => (String.ofList (c :: body), true)
  | none => (String.ofList body, false)

/-- Writes a double as `printf` does, padded to the width. -/
def FloatFormat.render (f : FloatFormat) (r : Float) : String :=
  let (s, signed) := f.body r
  let isSpecialText := s == "NaN" || s == "null" || s.endsWith "Inf"
  padNumber { f with zeroPad := f.zeroPad && !isSpecialText } signed s

/-- The text the engine makes of a double: `%!.15g`. -/
def realText (r : Float) : String :=
  FloatFormat.render { kind := .general, precision := some 15, extended := true } r

end RecordMap.Sql
