import RecordMap.Sql.Compare

/-!
# Operators on values

The operators of expressions, on values:

* Arithmetic works on 64-bit integers while both operands are integers (text that reads wholly
  as an integer counts as one) and the result fits; otherwise on doubles. Division and remainder
  by zero are null, and so is a result that is not a number. The remainder of doubles is the
  remainder of their integer parts.
* A comparison first converts its operands by its affinity: a numeric affinity reads text that
  is wholly a number as that number, and text affinity writes numbers as text when the other
  operand is text. Then values compare as `compareDatum` orders them, under the comparison's
  collation; null is unknown, except to `is` and `is not`.
* `||` joins the texts of its operands, as bytes; null makes null.
* `and`, `or` and `not` are three-valued. Bitwise operators work on the operands' 64-bit
  integer readings; a shift by a negative amount shifts the other way.
-/

namespace RecordMap.Sql

open RecordMap.Numeral

/-- Truth as a value: 1 or 0. -/
def Datum.ofBool (b : Bool) : Datum := .integer (if b then 1 else 0)

/-- An integer result, or the double result when it leaves the 64-bit range. -/
def integerOrReal (r : Int) (real : Float) : Datum :=
  if fitsI64 r then .integer r else Datum.ofReal real

/-- The arithmetic operators. -/
inductive ArithOp where
  | add
  | sub
  | mul
  | div
  | rem
  deriving Repr, DecidableEq, Inhabited

/-- An arithmetic operator on two values. -/
def arithmetic (op : ArithOp) (a b : Datum) : Datum :=
  match a, b with
  | .null, _ | _, .null => .null
  | _, _ =>
    match a.numeric, b.numeric with
    | .integer x, .integer y => onIntegers x y
    | _, _ => onReals
where
  /-- The operator on two integers, falling back to doubles when the result overflows. -/
  onIntegers (x y : Int) : Datum :=
    match op with
    | .add => if fitsI64 (x + y) then .integer (x + y) else onReals
    | .sub => if fitsI64 (x - y) then .integer (x - y) else onReals
    | .mul => if fitsI64 (x * y) then .integer (x * y) else onReals
    | .div =>
      if y == 0 then .null
      else if x == minI64 && y == -1 then onReals
      else .integer (x.tdiv y)
    | .rem =>
      if y == 0 then .null
      else .integer (x.tmod (if y == -1 then 1 else y))
  /-- The operator on the doubles of the values. -/
  onReals : Datum :=
    let fx := a.realValue
    let fy := b.realValue
    match op with
    | .add => Datum.ofReal (fx + fy)
    | .sub => Datum.ofReal (fx - fy)
    | .mul => Datum.ofReal (fx * fy)
    | .div => if fy == 0.0 then .null else Datum.ofReal (fx / fy)
    | .rem =>
      let ix := a.intValue
      let iy := b.intValue
      if iy == 0 then .null
      else Datum.ofReal (floatOfInt (ix.tmod (if iy == -1 then 1 else iy)))

/-- The 64 bits of an integer, as a natural. -/
def bitsOf (i : Int) : Nat := (i % Nat.pow 2 64).toNat

/-- 64 bits as a signed integer. -/
def ofBits (n : Nat) : Int :=
  let k : Nat := n % (Nat.pow 2 64 : Nat)
  if k ≥ (Nat.pow 2 63 : Nat) then (k : Int) - (Nat.pow 2 64 : Int) else (k : Int)

/-- The bitwise operators. -/
inductive BitOp where
  | and
  | or
  | shiftLeft
  | shiftRight
  deriving Repr, DecidableEq, Inhabited

/-- A bitwise operator on two values. -/
def bitwise (op : BitOp) (a b : Datum) : Datum :=
  if a.isNull || b.isNull then .null else
  let x := a.intValue
  let y := b.intValue
  match op with
  | .and => .integer (ofBits (bitsOf x &&& bitsOf y))
  | .or => .integer (ofBits (bitsOf x ||| bitsOf y))
  | .shiftLeft | .shiftRight =>
    if y == 0 then .integer x else
    let (left, amount) := if y < 0 then (op == .shiftRight, if y > -64 then -y else 64)
      else (op == .shiftLeft, y)
    if amount ≥ 64 then .integer (if x ≥ 0 || left then 0 else -1)
    else if left then .integer (ofBits (bitsOf x * Nat.pow 2 amount.toNat))
    else .integer (x >>> amount.toNat)

/-- Two operands as a comparison of the given affinity converts them. -/
def comparisonOperands (aff : Affinity) (a b : Datum) : Datum × Datum :=
  let isText (d : Datum) := match d with | .text _ => true | _ => false
  if aff.isNumeric then (a.forComparison aff, b.forComparison aff)
  else if aff == .text && (isText a || isText b) then
    let toText (d : Datum) : Datum := match d with
      | .integer _ | .real _ => .text d.bytes
      | other => other
    (toText a, toText b)
  else (a, b)

/-- The order of two values under a comparison's affinity and collation, unknown when either is
null. -/
def compareUnder (aff : Affinity) (c : Collation) (a b : Datum) : Option Ordering :=
  let (x, y) := comparisonOperands aff a b
  Datum.compareNonNull? c x y

/-- The comparison operators. -/
inductive CompareOp where
  | eq
  | ne
  | lt
  | le
  | gt
  | ge
  | is
  | isNot
  deriving Repr, DecidableEq, Inhabited

/-- Whether an order satisfies a comparison operator. -/
def CompareOp.holds (op : CompareOp) (o : Ordering) : Bool :=
  match op with
  | .eq | .is => o == .eq
  | .ne | .isNot => o != .eq
  | .lt => o == .lt
  | .le => o != .gt
  | .gt => o == .gt
  | .ge => o != .lt

/-- The truth of a comparison operator on two values. -/
def comparison (op : CompareOp) (aff : Affinity) (c : Collation) (a b : Datum) : Datum :=
  match op with
  | .is | .isNot =>
    let same := match a, b with
      | .null, .null => true
      | .null, _ | _, .null => false
      | _, _ => compareUnder aff c a b == some .eq
    Datum.ofBool (if op == .is then same else !same)
  | _ =>
    match compareUnder aff c a b with
    | none => .null
    | some o => Datum.ofBool (op.holds o)

/-- Three-valued `and`. -/
def conjoin (a b : Datum) : Datum :=
  match a.truth?, b.truth? with
  | some false, _ | _, some false => .integer 0
  | some true, some true => .integer 1
  | _, _ => .null

/-- Three-valued `or`. -/
def disjoin (a b : Datum) : Datum :=
  match a.truth?, b.truth? with
  | some true, _ | _, some true => .integer 1
  | some false, some false => .integer 0
  | _, _ => .null

/-- Three-valued `not`. -/
def negateTruth (a : Datum) : Datum :=
  match a.truth? with
  | some t => Datum.ofBool (!t)
  | none => .null

/-- Concatenation of the texts of two values. -/
def concatenate (a b : Datum) : Datum :=
  match a.text?, b.text? with
  | some x, some y => .text (x ++ y)
  | _, _ => .null

/-- Arithmetic negation: zero minus the value. -/
def negateValue (a : Datum) : Datum := arithmetic .sub (.integer 0) a

/-- Bitwise complement of a value's integer reading. -/
def complement (a : Datum) : Datum := if a.isNull then .null else .integer (-a.intValue - 1)

/-- The truth of a value in a condition: only a true value passes. -/
def Datum.passes (d : Datum) : Bool := d.truth? == some true

end RecordMap.Sql
