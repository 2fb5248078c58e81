import RecordMap.Error
import RecordMap.Numeral.Integral

/-!
# Converting a value to a semantic type

`Value.coerce v t` is the value that `v` stands for in type `t`, or the reason it has none.
Null stays null in every type. Whole-number types take booleans as 0 and 1, integers that
lie in their range, and doubles and decimals rounded to the nearest integer (a tie to the
even one); booleans take any number, nonzero meaning true. Real types take integers,
booleans and decimals as doubles, and a 32-bit real narrows a double to single precision
first. Decimals take integers exactly and doubles through their shortest text. Identifiers
are read from text, every value becomes text by its display, and timestamps move between
UTC offset and none. Every other pair leaves the value as it is.
-/

namespace RecordMap

open RecordMap.Numeral RecordMap.Time

/-- An integer checked against the range of a whole-number type. -/
def DataType.checkRange (t : DataType) (i : Int) : Except TypeFault Int :=
  if t.width.admits i then .ok i else .error (.outOfRange (toString i) t.name)

/-- The double nearest to the single-precision double nearest to `x`. -/
def narrowToSingle (x : Float) : Float := x.toFloat32.toFloat


namespace Value

/-- A double as a whole number of a type: rounded to the nearest integer, a tie to the even
one. A NaN, an infinity and a rounded value outside the 64-bit range have none; `2 ^ 63`
itself passes the bound and saturates to the largest 64-bit integer. -/
def wholeOfFloat (x : Float) (t : DataType) : Except TypeFault Int :=
  match roundEven? x with
  | some r =>
    if r < minI64 ∨ r > Nat.pow 2 63 then .error (.outOfRange (FloatStyle.plain.render x) t.name)
    else t.checkRange (clampI64 r)
  | none => .error (.outOfRange (FloatStyle.plain.render x) t.name)

/-- The conversions into a non-integral type that cannot fail, and otherwise the value as
it is. -/
def convertTotal (v : Value) (t : DataType) : Value :=
  match v, t with
  | .int i, .float32 | .int i, .float64 => .float (floatOfInt i)
  | .bool b, .float32 | .bool b, .float64 => .float (if b then 1.0 else 0.0)
  | .decimal d, .float32 | .decimal d, .float64 => .float d.toFloat
  | .float x, .float32 => .float (narrowToSingle x)
  | .int i, .decimal => .decimal ⟨i, 0⟩
  | .text s, .text => .text s
  | o, .text => .text o.displayText
  | .timestampTz z, .dateTime => .timestamp z.utc
  | .timestamp s, .dateTimeOffset => .timestampTz (OffsetTimestamp.ofUtc s)
  | o, _ => o

/-- The decimal of a double, or why it has none. -/
def decimalOfFloat (x : Float) : Except TypeFault Decimal :=
  match Decimal.ofFloat? x with
  | .ok d => .ok d
  | .error (.notFinite s) => .error (.noDecimal s)
  | .error (.outOfRange s) => .error (.outOfRange s "decimal")

/-- The identifier written by a text, or why it is none. -/
def uuidOfText (s : String) : Except TypeFault Uuid :=
  match Uuid.parse s with
  | .ok u => .ok u
  | .error e => .error (.badUuid s e)

/-- The value in the given type, or why it has none there. -/
def coerce (v : Value) (t : DataType) : Except TypeFault Value :=
  match v, t with
  | .null, _ => .ok .null
  | .bool b, .bool => .ok (.bool b)
  | .int i, .bool => .ok (.bool (i != 0))
  | .float x, .bool => .ok (.bool (x != 0.0))
  | v, t =>
    if t.isIntegral then
      match v with
      | .bool b => .ok (.int (if b then 1 else 0))
      | .int i => (t.checkRange i).map .int
      | .float x => (wholeOfFloat x t).map .int
      | .decimal d => (t.checkRange (saturateI64 (roundEven d.toFloat))).map .int
      | other => .ok (convertTotal other t)
    else
      match v, t with
      | .float x, .decimal => (decimalOfFloat x).map .decimal
      | .text s, .uuid => (uuidOfText s).map .uuid
      | v, t => .ok (convertTotal v t)

end Value

end RecordMap
