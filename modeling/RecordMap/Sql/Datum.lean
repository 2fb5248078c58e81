import RecordMap.Sql.RealRead
import RecordMap.Sql.RealText
import RecordMap.Numeral.Integral

/-!
# Stored values

A `Datum` is a value the database stores or computes, of one of five storage classes: null, a
64-bit integer, a double, text, or bytes. Text is kept as the bytes it was given, so that text
made from bytes that are not UTF-8 keeps them. A double that is not a number is never a datum;
it becomes null (`Datum.ofReal`).

How values read one another:

* `Datum.text?` is the text of a value: an integer in decimal, a double as `realText` writes
  it, bytes as they are.
* `Datum.realValue` and `Datum.intValue` are the readings that arithmetic and casts use: text
  and bytes by their longest numeric prefix, null as zero, a double truncated toward zero and
  clamped to the 64-bit range.
* `Datum.numeric` is the number a value is in arithmetic: text that reads wholly as an integer
  (or has only an integer prefix, or none) is that integer, any other text the double of its
  numeric prefix.
* `Datum.numerify` is a cast to `NUMERIC`: an integer when the text is an integer, or when its
  double is a whole number of magnitude below `2 ^ 51`, else the double.
-/

namespace RecordMap.Sql

open RecordMap.Numeral

/-- A stored or computed value. -/
inductive Datum where
  | null
  | integer (i : Int)
  | real (x : Float)
  | text (b : Bytes)
  | blob (b : Bytes)
  deriving Repr, Inhabited

/-- A double as a 64-bit integer: the fraction dropped, values past either end clamped, and a NaN
read as the smallest integer. -/
def realToInt (x : Float) : Int :=
  match FloatShape.ofFloat x with
  | .nan => minI64
  | _ => saturateI64 x

/-- The integer a double is exactly, if it is integral and finite. -/
def integralValue? (x : Float) : Option Int :=
  match FloatShape.ofFloat x with
  | .finite neg m e =>
    if e ≥ 0 then some (signed neg (m * Nat.pow 2 e.toNat))
    else if m % Nat.pow 2 (-e).toNat = 0 then some (signed neg (m / Nat.pow 2 (-e).toNat))
    else none
  | _ => none

/-- Whether a double and an integer are the same small number: the double is zero, or it is
exactly the integer and the integer lies strictly inside `± 2 ^ 51`. -/
def realSameAsInt (x : Float) (i : Int) : Bool :=
  x == 0.0 || ((floatOfInt i).toBits == x.toBits && -(Nat.pow 2 51 : Int) ≤ i && i < Nat.pow 2 51)

/-- The integer a double becomes when it is integral and strictly inside the 64-bit range. -/
def realAsInteger? (x : Float) : Option Int :=
  let i := realToInt x
  if floatOfInt i == x && minI64 < i && i < maxI64 then some i else none

/-- The decimal text of an integer. -/
def intText (i : Int) : String := toString i

namespace Datum

/-- A double as a datum: a NaN is null. -/
def ofReal (x : Float) : Datum := if isNaN x then .null else .real x

def ofString (s : String) : Datum := .text (bytesOf s)

/-- The storage class name that `typeof` reports. -/
def typeName : Datum → String
  | .null => "null"
  | .integer _ => "integer"
  | .real _ => "real"
  | .text _ => "text"
  | .blob _ => "blob"

/-- Whether the value is null. -/
def isNull : Datum → Bool
  | .null => true
  | _ => false

/-- Whether the value is an integer or a double. -/
def isNumber : Datum → Bool
  | .integer _ | .real _ => true
  | _ => false

/-- Identity of values: the same class and the same contents, doubles by their bits. -/
def same : Datum → Datum → Bool
  | .null, .null => true
  | .integer a, .integer b => a == b
  | .real a, .real b => a.toBits == b.toBits
  | .text a, .text b => a == b
  | .blob a, .blob b => a == b
  | _, _ => false

/-- The text of a value, for text functions and text affinity; null has none. -/
def text? : Datum → Option Bytes
  | .null => none
  | .integer i => some (bytesOf (intText i))
  | .real x => some (bytesOf (realText x))
  | .text b => some b
  | .blob b => some b

/-- The bytes of a value: text and bytes as they are, numbers as their text, null as none. -/
def bytes : Datum → Bytes
  | .null => []
  | d => d.text?.getD []

/-- The value as a double: text and bytes by their numeric prefix, null as zero. -/
def realValue : Datum → Float
  | .null => 0.0
  | .integer i => floatOfInt i
  | .real x => x
  | .text b => (readReal b).value
  | .blob b => (readReal b).value

/-- The value as a 64-bit integer: doubles truncated and clamped, text by its integer prefix. -/
def intValue : Datum → Int
  | .null => 0
  | .integer i => i
  | .real x => realToInt x
  | .text b => (readInt b).value
  | .blob b => (readInt b).value

/-- The truth of a value in a condition: null is unknown, other values are true when their
double is not zero. -/
def truth? : Datum → Option Bool
  | .null => none
  | .integer i => some (i != 0)
  | other => some (other.realValue != 0.0)

/-- The number some text stands for in arithmetic. -/
def numberOfBytes (b : Bytes) : Datum :=
  let r := readReal b
  match r.verdict with
  | .none =>
    let i := readInt b
    if i.verdict.fits then .integer i.value else .real r.value
  | .prefixOnly | .real => .real r.value
  | .integer =>
    let i := readInt b
    if i.verdict == .exact then .integer i.value else .real r.value

/-- The value as a number for arithmetic: null stays null. -/
def numeric : Datum → Datum
  | .text b => numberOfBytes b
  | .blob b => numberOfBytes b
  | d => d

/-- The number some text becomes under a cast to `NUMERIC`. -/
def numerifyBytes (b : Bytes) : Datum :=
  let r := readReal b
  let i := readInt b
  let wholeInt := (r.verdict == .none || r.verdict == .integer) && i.verdict.fits
  if wholeInt then .integer i.value
  else
    let j := realToInt r.value
    if realSameAsInt r.value j then .integer j else .real r.value

/-- A cast to `NUMERIC`: numbers and null stay, text and bytes become numbers. -/
def numerify : Datum → Datum
  | .text b => numerifyBytes b
  | .blob b => numerifyBytes b
  | d => d

end Datum

end RecordMap.Sql
