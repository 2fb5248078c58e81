import RecordMap.Json.Basic
import RecordMap.Numeral.Round
import RecordMap.Numeral.Width

/-!
# What a JSON number means

A number without point or exponent is an unsigned 64-bit integer when it has no sign, and a
negative 64-bit integer when it has one and fits; `-0` and every other number is a double.

The double is computed the way a streaming reader does, not by correct rounding: the digits
are gathered into a 64-bit significand (digits past its capacity are dropped, those of the
integer part counting as powers of ten), the significand becomes the nearest double, and that
is multiplied or divided by the nearest double to the power of ten. Powers past `10 ^ 308`
divide by `10 ^ 308` first, and an exponent past the 32-bit range reads as zero or fails. A
product that overflows fails. So `-1.5e-300` reads as `-1.4999999999999998e-300`, one unit below
the nearest double.
-/

namespace RecordMap

open RecordMap.Numeral

/-- The meaning of a JSON number. -/
inductive JsonNumber where
  | unsigned (n : Nat)
  | negative (i : Int)
  | double (x : Float)
  deriving Repr, Inhabited

namespace JsonNumber

/-- The largest 64-bit unsigned integer. -/
def maxU64 : Nat := 18446744073709551615

/-- The largest 32-bit signed integer. -/
def maxI32 : Nat := 2147483647

/-- The nearest double to `10 ^ k`, for `k ≤ 308`. -/
def powTen (k : Nat) : Float := floatOfDecimal false 1 k

/-- Digits of a list of digit characters. -/
def digitsOf (cs : List Char) : List Nat := cs.map fun c => c.toNat - 48

/-- Gathers digits into a significand until it would pass `maxU64`; the rest are returned. -/
def gather (sig : Nat) : List Nat → Nat × List Nat
  | [] => (sig, [])
  | d :: ds => if sig * 10 + d > maxU64 then (sig, d :: ds) else gather (sig * 10 + d) ds

/-- The double of `sig · 10 ^ exp` by one multiplication or division, dividing by `10 ^ 308`
while the power is past the table; `none` when the result overflows. -/
def fromParts (sig : Nat) (exp : Int) : Option Float :=
  go (floatOfNat sig) exp (exp.natAbs / 308 + 1)
where
  go (f : Float) (exp : Int) : Nat → Option Float
    | 0 => some f
    | fuel + 1 =>
      if exp.natAbs ≤ 308 then
        if exp ≥ 0 then
          let g := f * powTen exp.toNat
          if g == positiveInfinity then none else some g
        else some (f / powTen exp.natAbs)
      else if f == 0.0 then some f
      else if exp ≥ 0 then none
      else go (f / powTen 308) (exp + 308) fuel

/-- The exponent written after `e`: its sign and digits, saturated by the 32-bit range. -/
def exponentPart (cs : List Char) : Bool × List Nat :=
  match cs with
  | '+' :: r => (true, digitsOf r)
  | '-' :: r => (false, digitsOf r)
  | r => (true, digitsOf r)

/-- The double written by a number text, with the sign applied last. -/
def doubleOf (neg : Bool) (whole frac : List Nat) (expPart : Option (List Char)) :
    Option Float :=
  let (sig, restWhole) := gather 0 whole
  -- digits of the integer part past the significand count as powers of ten; fraction digits
  -- still join the significand while it has room
  let (sig, restFrac) := gather sig frac
  let exp : Int := (restWhole.length : Int) - ((frac.length - restFrac.length : Nat) : Int)
  let apply (f : Float) : Float := if neg then -f else f
  match expPart with
  | none => (fromParts sig exp).map apply
  | some cs =>
    let (positiveExp, ds) := exponentPart cs
    let e : Nat := ds.foldl (fun (n : Nat) d => n * 10 + d) 0
    -- the digits are read into 32 bits; past that the exponent alone decides
    let overflow := (ds.foldl (fun (acc : Nat × Bool) d =>
      if acc.2 then acc else if acc.1 * 10 + d > maxI32 then (acc.1, true)
      else (acc.1 * 10 + d, false)) (0, false)).2
    if overflow then
      if sig ≠ 0 ∧ positiveExp then none else some (apply 0.0)
    else
      let total : Int := if positiveExp then exp + (e : Int) else exp - (e : Int)
      let total := max (-(maxI32 : Int) - 1) (min maxI32 total)
      (fromParts sig total).map apply

/-- The meaning of a number text that follows the JSON grammar; `none` when a double would
overflow. -/
def ofText (t : String) : Option JsonNumber :=
  let cs := t.toList
  let (neg, cs) := match cs with
    | '-' :: r => (true, r)
    | _ => (false, cs)
  let whole := cs.takeWhile Char.isDigit
  let rest := cs.dropWhile Char.isDigit
  let (frac, rest) : List Char × List Char := match rest with
    | '.' :: r => (r.takeWhile Char.isDigit, r.dropWhile Char.isDigit)
    | _ => ([], rest)
  let hasPoint := match cs.dropWhile Char.isDigit with
    | '.' :: _ => true
    | _ => false
  let expPart : Option (List Char) := match rest with
    | e :: r => if e == 'e' || e == 'E' then some r else none
    | [] => none
  let wholeDigits := digitsOf whole
  let n := wholeDigits.foldl (fun n d => n * 10 + d) 0
  if !hasPoint && expPart.isNone && n ≤ maxU64 then
    if !neg then some (.unsigned n)
    else if n ≠ 0 ∧ n ≤ Nat.pow 2 63 then some (.negative (-(n : Int)))
    else some (.double (-(floatOfNat n)))
  else (doubleOf neg wholeDigits (digitsOf frac) expPart).map .double

/-- The 64-bit integer, if the number is one. -/
def toInt? : JsonNumber → Option Int
  | .unsigned n => if n ≤ Nat.pow 2 63 - 1 then some n else none
  | .negative i => some i
  | .double _ => none

/-- The natural, if the number is an unsigned integer. -/
def toNat? : JsonNumber → Option Nat
  | .unsigned n => some n
  | _ => none

/-- The number as a double. -/
def toFloat : JsonNumber → Float
  | .unsigned n => floatOfNat n
  | .negative i => floatOfInt i
  | .double x => x

end JsonNumber

/-- The meaning of a number document. -/
def Json.number? : Json → Option JsonNumber
  | .number t => JsonNumber.ofText t
  | _ => none

/-- The 64-bit integer of a number document. -/
def Json.int? (j : Json) : Option Int := j.number?.bind JsonNumber.toInt?

/-- The natural of an unsigned integer document. -/
def Json.nat? (j : Json) : Option Nat := j.number?.bind JsonNumber.toNat?

/-- The double of a number document. -/
def Json.float? (j : Json) : Option Float := j.number?.map JsonNumber.toFloat

end RecordMap
