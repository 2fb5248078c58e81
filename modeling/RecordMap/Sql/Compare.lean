import RecordMap.Sql.Affinity

/-!
# Ordering values

Values of different storage classes order as null, numbers, text, bytes. Numbers compare by
value, an integer against a double exactly. Text compares by a collation:

* `binary` compares the bytes, a shorter text that is a prefix of a longer one first;
* `nocase` compares the bytes with ASCII capitals folded, over the length of the shorter text
  and stopping at a zero byte, and then, when they agree, by length;
* `rtrim` compares as `binary` after dropping trailing blanks.

Bytes compare as `binary` text does. `compareDatum` is the total order that sorting and grouping
use (null first); the comparison operators leave null unknown, which
`Datum.compareNonNull?` reports as `none`.
-/

namespace RecordMap.Sql

open RecordMap.Numeral

/-- How text is compared. -/
inductive Collation where
  | binary
  | nocase
  | rtrim
  deriving Repr, DecidableEq, Inhabited

namespace Collation

/-- The collation of a name, matched up to ASCII case. -/
def ofName? (name : String) : Option Collation :=
  match name.toList.map Char.toLower with
  | ['b', 'i', 'n', 'a', 'r', 'y'] => some .binary
  | ['n', 'o', 'c', 'a', 's', 'e'] => some .nocase
  | ['r', 't', 'r', 'i', 'm'] => some .rtrim
  | _ => none

/-- The name of a collation, as the schema shows it. -/
def name : Collation → String
  | .binary => "BINARY"
  | .nocase => "NOCASE"
  | .rtrim => "RTRIM"

end Collation

/-- Bytes in lexicographic order, a prefix first. -/
def compareBytes : Bytes → Bytes → Ordering
  | [], [] => .eq
  | [], _ :: _ => .lt
  | _ :: _, [] => .gt
  | a :: as, b :: bs => if a < b then .lt else if b < a then .gt else compareBytes as bs

/-- Folded bytes compared over at most `n` places, stopping after a zero byte on the left. -/
def compareFolded : Nat → Bytes → Bytes → Ordering
  | 0, _, _ => .eq
  | n + 1, a :: as, bs =>
    let b := bs.headD 0
    let x := lowerByte a
    let y := lowerByte b
    if a == 0 || x != y then compare x.toNat y.toNat
    else compareFolded n as (bs.drop 1)
  | _ + 1, [], bs => compare 0 (lowerByte (bs.headD 0)).toNat

/-- Two texts under a collation. -/
def compareText : Collation → Bytes → Bytes → Ordering
  | .binary, a, b => compareBytes a b
  | .nocase, a, b =>
    match compareFolded (min a.length b.length) a b with
    | .eq => compare a.length b.length
    | o => o
  | .rtrim, a, b =>
    let trim (x : Bytes) : Bytes := (x.reverse.dropWhile (· == 32)).reverse
    compareBytes (trim a) (trim b)

/-- An integer against a double, exactly; a NaN counts as smaller than every integer. -/
def compareIntReal (i : Int) (x : Float) : Ordering :=
  match FloatShape.ofFloat x with
  | .nan => .gt
  | .infinite neg => if neg then .gt else .lt
  | .finite neg m e =>
    let lhs : Int := i * Nat.pow 2 (-e).toNat
    let rhs : Int := signed neg (m * Nat.pow 2 e.toNat)
    compare lhs rhs

/-- Two doubles. -/
def compareReals (a b : Float) : Ordering :=
  if a < b then .lt else if a == b then .eq else .gt

/-- The rank of a storage class in the order of values. -/
def Datum.classRank : Datum → Nat
  | .null => 0
  | .integer _ | .real _ => 1
  | .text _ => 2
  | .blob _ => 3

/-- The order of values, null first. -/
def compareDatum (c : Collation) : Datum → Datum → Ordering
  | .null, .null => .eq
  | .integer a, .integer b => compare a b
  | .integer a, .real b => compareIntReal a b
  | .real a, .integer b => (compareIntReal b a).swap
  | .real a, .real b => compareReals a b
  | .text a, .text b => compareText c a b
  | .blob a, .blob b => compareBytes a b
  | a, b => compare a.classRank b.classRank

/-- The comparison of two values, unknown when either is null. -/
def Datum.compareNonNull? (c : Collation) (a b : Datum) : Option Ordering :=
  if a.isNull || b.isNull then none else some (compareDatum c a b)

/-- Lexicographic order of rows of values, each place with its collation and direction. -/
def compareRows : List (Collation × Bool) → List Datum → List Datum → Ordering
  | [], _, _ => .eq
  | (c, desc) :: rest, a :: as, b :: bs =>
    match compareDatum c a b with
    | .eq => compareRows rest as bs
    | o => if desc then o.swap else o
  | _ :: _, [], [] => .eq
  | _ :: _, [], _ :: _ => .lt
  | _ :: _, _ :: _, [] => .gt

end RecordMap.Sql
