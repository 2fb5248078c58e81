import RecordMap.Numeral.Shortest

/-!
# A fixed number of significant digits

`roundSignificant m e n` is the double `m · 2 ^ e` (with `m > 0`) rounded to `n ≥ 1` significant
decimal digits, a half going up: the digits as a natural below `10 ^ n` and the decimal exponent of
the first of them. A carry past the last digit (as `9.99…` becoming `10.0…`) moves the exponent.
All arithmetic is exact.
-/

namespace RecordMap.Numeral

/-- Digits `c` with `10 ^ (n - 1) ≤ c < 10 ^ n` and the exponent `k` of the first digit, so that the
number is `c · 10 ^ (k - n + 1)`. -/
structure Significant where
  digits : Nat
  lead : Int
  deriving Repr, DecidableEq, Inhabited

/-- The double `m · 2 ^ e`, `m > 0`, rounded half up to `n` significant digits. -/
def roundSignificant (m : Nat) (e : Int) (n : Nat) : Significant :=
  let k := decimalExponent m e
  let t := k - n + 1
  let q := (floorOnGrid m e t).1
  -- round up when `v ≥ (q + 1/2) · 10 ^ t`, that is `2v ≥ (2q + 1) · 10 ^ t`
  let up := compareScaled (2 * m) e 0 (2 * q + 1) 0 t != .lt
  let c := if up then q + 1 else q
  if c = Nat.pow 10 n then ⟨Nat.pow 10 (n - 1), k + 1⟩ else ⟨c, k⟩

/-- The digit characters of `s`, without the zeros that end them (at least one digit stays). -/
def Significant.trimmedChars (s : Significant) : List Char :=
  let cs := (decimalChars s.digits).reverse.dropWhile (· = '0')
  if cs.isEmpty then ['0'] else cs.reverse

end RecordMap.Numeral
