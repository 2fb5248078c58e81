import RecordMap.Numeral.Round
import RecordMap.Numeral.Width

/-!
# Integral parts of doubles

Exact integer views of a double, read from its bits: `truncate?` drops the fraction (toward
zero) and `roundEven?` goes to the nearest integer with a tie to the even one; both are `none`
for a NaN or an infinity. `saturateI64` is the conversion that clamps into 64 signed bits and
sends a NaN to zero. `Float.roundEven` keeps the sign of a zero result, as `-0.4` rounds to
`-0.0`.
-/

namespace RecordMap.Numeral

/-- `± n` as an integer. -/
def signed (negative : Bool) (n : Nat) : Int := if negative then -(n : Int) else n

/-- The double without its fraction, toward zero; `none` for NaN and infinities. -/
def truncate? (x : Float) : Option Int :=
  match FloatShape.ofFloat x with
  | .finite neg m e => some (signed neg (m * Nat.pow 2 e.toNat / Nat.pow 2 (-e).toNat))
  | _ => none

/-- The integer nearest to the double, a tie going to the even one; `none` for NaN and
infinities. -/
def roundEven? (x : Float) : Option Int :=
  match FloatShape.ofFloat x with
  | .finite neg m e => some (signed neg (roundHalfEven (m * Nat.pow 2 e.toNat) (Nat.pow 2 (-e).toNat)))
  | _ => none

/-- The double rounded to an integral double, a tie going to the even one. A NaN or an
infinity is returned unchanged, and a result of zero keeps the sign of the argument. -/
def roundEven (x : Float) : Float :=
  match FloatShape.ofFloat x with
  | .finite neg m e =>
    if e ≥ 0 then x
    else
      let r := roundHalfEven m (Nat.pow 2 (-e).toNat)
      floatOfDecimal neg r 0
  | _ => x

/-- The double as a 64-bit integer: the fraction is dropped, values beyond the range clamp to
its ends, and a NaN becomes zero. -/
def saturateI64 (x : Float) : Int :=
  match FloatShape.ofFloat x with
  | .nan => 0
  | .infinite neg => if neg then minI64 else maxI64
  | .finite neg m e => clampI64 (signed neg (m * Nat.pow 2 e.toNat / Nat.pow 2 (-e).toNat))

/-- Whether the double is neither NaN nor infinite. -/
def isFinite (x : Float) : Bool :=
  match FloatShape.ofFloat x with
  | .finite .. => true
  | _ => false

/-- Whether the double is a NaN. -/
def isNaN (x : Float) : Bool := FloatShape.ofFloat x == .nan

end RecordMap.Numeral
