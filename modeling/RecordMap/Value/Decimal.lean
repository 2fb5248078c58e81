import RecordMap.Numeral.Text
import RecordMap.Numeral.Integral

/-!
# Fixed-point decimals

A `Decimal` is `digits · 10 ^ (-scale)` with 128-bit signed digits and a 16-bit scale; two
decimals are equal only when both parts are. `Decimal.render` writes the exact value with
`scale` fraction digits (a negative scale appends zeros), and `Decimal.toFloat` divides the
digits by a power of ten built by repeated squaring. `Decimal.ofFloat?` goes through the
shortest text of the double, so `0.1` becomes `1 · 10 ^ (-1)`; fraction digits past the
twenty-eighth are cut off.
-/

namespace RecordMap

open RecordMap.Numeral

/-- A fixed-point decimal `digits · 10 ^ (-scale)`. -/
structure Decimal where
  digits : Int
  scale : Int
  deriving Repr, DecidableEq, Inhabited

namespace Decimal

/-- The most fraction digits taken from a double. -/
def maxScale : Nat := 28

/-- `a ^ n` by repeated squaring from the low bit up: each set bit multiplies the result by the
current square, and the square is formed only while bits remain. -/
def powSquaring (a : Float) (n : Nat) : Float :=
  go a n 1.0
where
  go (a : Float) (n : Nat) (r : Float) : Float :=
    let r := if n % 2 = 1 then r * a else r
    if h : n / 2 = 0 then r else go (a * a) (n / 2) r
  termination_by n
  decreasing_by omega

/-- `10 ^ e` for a signed exponent; a negative exponent gives the reciprocal. -/
def powTen (e : Int) : Float :=
  let r := powSquaring 10.0 e.natAbs
  if e < 0 then 1.0 / r else r

/-- The nearest double to the digits, divided by the power of ten of the scale. -/
def toFloat (d : Decimal) : Float := floatOfInt d.digits / powTen d.scale

/-- `n` written with at least `width` digits, zeros in front. -/
def zeroPadded (width : Nat) (n : Nat) : String :=
  let s := toString n
  String.ofList (List.replicate (width - s.length) '0') ++ s

/-- The exact value: with `scale > 0` a point and `scale` fraction digits (the whole part is
zero when the scale passes 38 digits, where every 128-bit value is below the divisor);
otherwise the digits followed by `-scale` zeros, or `0` for zero digits. -/
def render (d : Decimal) : String :=
  if d.scale ≤ 0 then
    if d.digits = 0 then "0"
    else toString d.digits ++ String.ofList (List.replicate d.scale.natAbs '0')
  else
    let sign := if d.digits < 0 then "-" else ""
    let m := d.digits.natAbs
    let s := d.scale.toNat
    let (whole, frac) := if s ≤ 38 then (m / Nat.pow 10 s, m % Nat.pow 10 s) else (0, m)
    sign ++ toString whole ++ "." ++ zeroPadded s frac

/-- Why a double has no decimal. -/
inductive Fault where
  | notFinite (text : String)
  | outOfRange (text : String)
  deriving Repr, DecidableEq

/-- The text of a fault. -/
def Fault.message : Fault → String
  | .notFinite t => t ++ " has no decimal representation"
  | .outOfRange t => t ++ " is out of range for decimal"

/-- The decimal of a double's shortest text, with at most `maxScale` fraction digits, if the
digits fit 128 bits. -/
def ofFloat? (x : Float) : Except Fault Decimal :=
  let text := FloatStyle.plain.render x
  if !isFinite x then .error (.notFinite text)
  else
    let cs := text.toList
    let (negative, cs) := match cs with
      | '-' :: rest => (true, rest)
      | _ => (false, cs)
    let whole := cs.takeWhile (· ≠ '.')
    let frac := ((cs.dropWhile (· ≠ '.')).drop 1).take maxScale
    let magnitude := (whole ++ frac).foldl (fun n c => 10 * n + (c.toNat - '0'.toNat)) 0
    if magnitude > IntWidth.i128.hi then .error (.outOfRange text)
    else .ok ⟨signed negative magnitude, frac.length⟩

end Decimal

end RecordMap
