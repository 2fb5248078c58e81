import RecordMap.Numeral.Round
import RecordMap.Numeral.Binary

/-!
# Extended precision

The engine converts between decimal text and doubles through the 80-bit extended format of the
x87 unit: a 64-bit mantissa and a wide exponent. Every product is rounded to 64 significant
bits, a tie going to the even mantissa, and only the last step rounds to a double. Because the
intermediate products carry eleven more bits than a double, the result is sometimes one unit
away from the correctly rounded double, and the engine's text of a double can differ in its
last digit from the shortest one.

An `Extended` is `mant · 2 ^ exp` with `mant < 2 ^ 64`. Only non-negative values occur: the
callers handle signs themselves.
-/

namespace RecordMap.Numeral

/-- A non-negative number with a 64-bit mantissa. -/
structure Extended where
  mant : Nat
  exp : Int
  deriving Repr, Inhabited

namespace Extended

def precision : Nat := 64

/-- A natural rounded to `bits` significant bits: the mantissa and the power of two it is
scaled by. -/
def roundNat (bits : Nat) (m : Nat) : Nat × Int :=
  let len := m.log2 + 1
  if m = 0 || len ≤ bits then (m, 0)
  else
    let shift := len - bits
    let q := roundHalfEven m (Nat.pow 2 shift)
    if q = Nat.pow 2 bits then (Nat.pow 2 (bits - 1), (shift : Int) + 1) else (q, shift)

/-- A natural, rounded to 64 significant bits. -/
def ofNat (n : Nat) : Extended :=
  let (m, e) := roundNat precision n
  ⟨m, e⟩

/-- The positive rational `num / den` rounded to 64 significant bits. -/
def ofRatio (num den : Nat) : Extended :=
  if num = 0 then ⟨0, 0⟩ else
  let big := binaryExponent num den
  let e := big - 63
  let m := roundHalfEven (num * Nat.pow 2 (-e).toNat) (den * Nat.pow 2 e.toNat)
  if m = Nat.pow 2 64 then ⟨Nat.pow 2 63, e + 1⟩ else ⟨m, e⟩

/-- The exact value of a finite non-negative double; anything else reads as zero. -/
def ofFloat (x : Float) : Extended :=
  match FloatShape.ofFloat x with
  | .finite _ m e => ⟨m, e⟩
  | _ => ⟨0, 0⟩

/-- The product, rounded to 64 significant bits. -/
def mul (a b : Extended) : Extended :=
  let (m, shift) := roundNat precision (a.mant * b.mant)
  ⟨m, a.exp + b.exp + shift⟩

/-- The value as a rational: numerator and denominator. -/
def ratio (a : Extended) : Nat × Nat :=
  if a.exp ≥ 0 then (a.mant * Nat.pow 2 a.exp.toNat, 1) else (a.mant, Nat.pow 2 (-a.exp).toNat)

/-- Compares two values exactly. -/
def compare (a b : Extended) : Ordering :=
  let (p, q) := a.ratio
  let (r, s) := b.ratio
  Ord.compare (p * s) (r * q)

/-- Whether `a < b`. -/
def lt (a b : Extended) : Bool := a.compare b == .lt

/-- Whether `a ≥ b`. -/
def ge (a b : Extended) : Bool := a.compare b != .lt

/-- The value with the fraction dropped. -/
def floor (a : Extended) : Nat :=
  let (p, q) := a.ratio
  p / q

/-- The double nearest to the value, infinity past the largest one. -/
def toFloat (a : Extended) : Float :=
  let (p, q) := a.ratio
  nearestDouble p q

/-- Ten to a natural power, rounded. -/
def tenTo (k : Nat) : Extended := ofRatio (Nat.pow 10 k) 1

/-- Ten to a negative power, rounded. -/
def tenToMinus (k : Nat) : Extended := ofRatio 1 (Nat.pow 10 k)

/-- The largest double written with the engine's twenty-nine digits, rounded. -/
def largestDouble : Extended := ofRatio (17976931348623157081452742373 * Nat.pow 10 280) 1

end Extended

end RecordMap.Numeral
