import RecordMap.Numeral.Shortest

/-!
# Rounding exact numbers to doubles

`nearestDouble num den` is the double nearest to the positive rational `num / den`, a tie going
to the even mantissa; past the largest finite double it is infinity, and below the smallest
subnormal it rounds to zero or to that subnormal. The bit pattern is computed in `Nat`
arithmetic and then read as a `Float`, so reading decimal text never depends on the platform's
own conversion. `Float.ofDecimal` reads `± digits · 10 ^ exp`.
-/

namespace RecordMap.Numeral

/-- The exponent `E` with `2 ^ E ≤ num / den < 2 ^ (E + 1)`, for positive `num` and `den`. -/
def binaryExponent (num den : Nat) : Int :=
  let guess : Int := (num.log2 : Int) - den.log2
  -- `num / den ≥ 2 ^ guess` iff `num · 2 ^ (-guess) ≥ den · 2 ^ guess`, scaled to naturals
  let lhs := num * Nat.pow 2 (-guess).toNat
  let rhs := den * Nat.pow 2 guess.toNat
  if lhs < rhs then guess - 1 else guess

/-- `n / d` rounded to the nearest natural, a tie going to the even one. -/
def roundHalfEven (n d : Nat) : Nat :=
  let q := n / d
  let r := n % d
  if 2 * r > d || (2 * r == d && q % 2 == 1) then q + 1 else q

/-- The bit pattern of the double nearest to `num / den`, positive and with `den > 0`. -/
def nearestBits (num den : Nat) : UInt64 :=
  if num = 0 then 0 else
  let big := binaryExponent num den
  let e := max (big - 52) (-1074)
  let m := roundHalfEven (num * Nat.pow 2 (-e).toNat) (den * Nat.pow 2 e.toNat)
  let (m, e) := if m = Nat.pow 2 53 then (Nat.pow 2 52, e + 1) else (m, e)
  if m < Nat.pow 2 52 then m.toUInt64
  else
    let biased := e + 1075
    if biased ≥ 2047 then 0x7FF0000000000000
    else (biased.toNat * Nat.pow 2 52 + (m - Nat.pow 2 52)).toUInt64

/-- The double nearest to the positive rational `num / den`. -/
def nearestDouble (num den : Nat) : Float := Float.ofBits (nearestBits num den)

def positiveInfinity : Float := Float.ofBits 0x7FF0000000000000

/-- The double nearest to `± digits · 10 ^ exp`. Exponents far outside the range of doubles are
cut short before any power is computed: the result is then infinity or zero. -/
def floatOfDecimal (negative : Bool) (digits : Nat) (exp : Int) : Float :=
  let magnitude :=
    if digits = 0 then 0.0
    else
      let size : Int := (decimalLength digits : Int) + exp
      if size > 310 then positiveInfinity
      else if size < -330 then 0.0
      else nearestDouble (digits * Nat.pow 10 exp.toNat) (Nat.pow 10 (-exp).toNat)
  if negative then -magnitude else magnitude

/-- The double nearest to a natural number. -/
def floatOfNat (n : Nat) : Float := floatOfDecimal false n 0

/-- The double nearest to an integer. -/
def floatOfInt (i : Int) : Float := floatOfDecimal (i < 0) i.natAbs 0

end RecordMap.Numeral
