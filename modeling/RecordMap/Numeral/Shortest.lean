import RecordMap.Numeral.Binary

/-!
# Shortest decimal digits of a double

A finite double `m · 2 ^ e` stands for every real that rounds to it: the interval reaching
half-way to each neighbouring double, ends included exactly when `m` is even (ties go to the
even mantissa). `shortestDigits` tries decimal grids of 1, 2, … 17 significant digits and, on the
first grid that has a point in the interval, takes the point nearer to the value (an exact tie
goes to the even digit string). The result is the fewest digits that read back as the same
double, and of those the nearest. All arithmetic is on `Nat`.
-/

namespace RecordMap.Numeral

/-- A decimal numeral `digits · 10 ^ exponent`. -/
structure Digits where
  digits : Nat
  exponent : Int
  deriving Repr, DecidableEq, Inhabited

/-- The number of decimal digits of `n` (one for zero). -/
def decimalLength (n : Nat) : Nat := (Nat.toDigits 10 n).length

/-- The digits of `n` as characters, most significant first. -/
def decimalChars (n : Nat) : List Char := Nat.toDigits 10 n

/-- Drops trailing zero digits into the exponent. -/
def Digits.normalize (d : Digits) : Digits :=
  go d.digits d.exponent d.digits
where
  go (m : Nat) (e : Int) : Nat → Digits
    | 0 => ⟨m, e⟩
    | fuel + 1 => if m ≠ 0 ∧ m % 10 = 0 then go (m / 10) (e + 1) fuel else ⟨m, e⟩

/-- Compares `a · 2 ^ x · 10 ^ y` with `b · 2 ^ u · 10 ^ w` exactly. -/
def compareScaled (a : Nat) (x y : Int) (b : Nat) (u w : Int) : Ordering :=
  let lo2 := min x u
  let lo10 := min y w
  let lhs := a * Nat.pow 2 (x - lo2).toNat * Nat.pow 10 (y - lo10).toNat
  let rhs := b * Nat.pow 2 (u - lo2).toNat * Nat.pow 10 (w - lo10).toNat
  compare lhs rhs

/-- The exponent `n` with `10 ^ n ≤ m · 2 ^ e < 10 ^ (n + 1)`, for `m > 0`. -/
def decimalExponent (m : Nat) (e : Int) : Int :=
  let num := m * Nat.pow 2 e.toNat
  let den := Nat.pow 2 (-e).toNat
  let guess : Int := (decimalLength num : Int) - decimalLength den
  if compareScaled 1 0 guess m e 0 == .gt then guess - 1 else guess

/-- `⌊m · 2 ^ e / 10 ^ t⌋` and whether the division is exact. -/
def floorOnGrid (m : Nat) (e t : Int) : Nat × Bool :=
  let num := m * Nat.pow 2 e.toNat * Nat.pow 10 (-t).toNat
  let den := Nat.pow 2 (-e).toNat * Nat.pow 10 t.toNat
  (num / den, num % den == 0)

/-- Whether `c · 10 ^ t` lies in the rounding interval of `m · 2 ^ e`: from
`(4m - gapBelow) · 2 ^ (e - 2)` to `(4m + 2) · 2 ^ (e - 2)`, ends included iff `closed`. -/
def inInterval (m : Nat) (e : Int) (gapBelow : Nat) (closed : Bool) (c : Nat) (t : Int) :
    Bool :=
  let lowOk := match compareScaled c 0 t (4 * m - gapBelow) (e - 2) 0 with
    | .gt => true
    | .eq => closed
    | .lt => false
  let highOk := match compareScaled c 0 t (4 * m + 2) (e - 2) 0 with
    | .lt => true
    | .eq => closed
    | .gt => false
  lowOk && highOk

/-- The candidates of the grid with `k` significant digits, nearest first. -/
def gridPick (m : Nat) (e : Int) (gapBelow : Nat) (closed : Bool) (n : Int) (k : Nat) :
    Option Digits :=
  let t := n - k + 1
  let (c0, exact) := floorOnGrid m e t
  if exact then some ⟨c0, t⟩ else
    let c1 := c0 + 1
    let ok0 := inInterval m e gapBelow closed c0 t
    let ok1 := inInterval m e gapBelow closed c1 t
    match ok0, ok1 with
    | true, false => some ⟨c0, t⟩
    | false, true => some ⟨c1, t⟩
    | false, false => none
    | true, true =>
      -- distance below is `v - c0·10^t`, above is `c1·10^t - v`; compare `2v` with their sum
      match compareScaled (2 * m) e 0 (c0 + c1) 0 t with
      | .lt => some ⟨c0, t⟩
      | .gt => some ⟨c1, t⟩
      | .eq => if c0 % 2 = 0 then some ⟨c0, t⟩ else some ⟨c1, t⟩

/-- The shortest nearest digits of the double `m · 2 ^ e`, `m > 0`, whose lower neighbour is
a quarter step away when `halfGapBelow` holds (the bottom of a binade) and half a step
otherwise. -/
def shortestOf (m : Nat) (e : Int) (halfGapBelow : Bool) : Digits :=
  let gapBelow := if halfGapBelow then 1 else 2
  let closed := m % 2 = 0
  let n := decimalExponent m e
  let rec search : Nat → Nat → Digits
    | 0, _ => ⟨(floorOnGrid m e (n - 16)).1, n - 16⟩
    | fuel + 1, k =>
      match gridPick m e gapBelow closed n k with
      | some d => d
      | none => search fuel (k + 1)
  (search 17 1).normalize

/-- Shortest digits of a finite nonzero mantissa and exponent as decoded from a double. -/
def shortestDigits (mant : Nat) (exp : Int) : Digits :=
  shortestOf mant exp (mant == Nat.pow 2 52 && decide (exp > -1074))

end RecordMap.Numeral
