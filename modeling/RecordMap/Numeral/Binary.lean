/-!
# Doubles as exact binary numbers

A finite IEEE-754 double is `± m · 2 ^ e` with a natural mantissa `m`. `FloatShape.ofFloat` reads
this off the bit pattern, so that printing and rounding can work in exact `Nat` arithmetic
and never on `Float` operations.
-/

namespace RecordMap.Numeral

/-- The shape of a double: not a number, an infinity, or a finite `± mant · 2 ^ exp`. -/
inductive FloatShape where
  | nan
  | infinite (negative : Bool)
  | finite (negative : Bool) (mant : Nat) (exp : Int)
  deriving Repr, DecidableEq, Inhabited

/-- The fields of a binary64 bit pattern: sign bit, biased exponent and 52-bit fraction. -/
def FloatShape.ofBits (bits : UInt64) : FloatShape :=
  let negative := bits >>> 63 == 1
  let biased := ((bits >>> 52) &&& 0x7FF).toNat
  let fraction := (bits &&& 0xFFFFFFFFFFFFF).toNat
  if biased = 0x7FF then
    if fraction = 0 then .infinite negative else .nan
  else if biased = 0 then
    .finite negative fraction (-1074)
  else
    .finite negative (fraction + Nat.pow 2 52) ((biased : Int) - 1075)

/-- The shape of a double, read from its bits. -/
def FloatShape.ofFloat (x : Float) : FloatShape := FloatShape.ofBits x.toBits

end RecordMap.Numeral
