import RecordMap.Value.Coerce

/-!
# Field kinds

A record field holds a value of one `FieldKind`, perhaps optional. `FieldKind.accept` is what
storing a value into the field and reading it back gives: null becomes the field's default
(or stays null when the field is optional), integers are checked against the field's width,
booleans count as 0 and 1, doubles narrow to single precision for 32-bit reals, decimals
and integers widen to doubles, text becomes bytes or an identifier, and timestamps move to or
from UTC. Every other value is refused with the kind of value and the field's type.

The enumeration `Level` has the variants `Low = 0`, `Mid = 1` and `High = 10`; it takes only
their ordinals. An inert field stores nothing: it accepts every value and holds null.
-/

namespace RecordMap

open RecordMap.Numeral RecordMap.Time

/-- What a record field holds. -/
inductive FieldKind where
  | bool
  | int (t : DataType)
  | float32
  | float64
  | decimal
  | string
  | blob
  | duration
  | datetime
  | datetimeTz
  | uuid
  | level
  | inert
  deriving Repr, DecidableEq, Inhabited

/-- A field's kind and whether it is optional. -/
structure FieldType where
  kind : FieldKind
  optional : Bool
  deriving Repr, DecidableEq, Inhabited

/-- The ordinals of the `Level` enumeration. -/
def levelOrdinals : List Int := [0, 1, 10]

namespace FieldKind

/-- The kind of a type name of the table spec. -/
def ofName? : String → Option FieldKind
  | "bool" => some .bool
  | "i8" => some (.int .int8)
  | "i16" => some (.int .int16)
  | "i32" => some (.int .int32)
  | "u8" => some (.int .uint8)
  | "u16" => some (.int .uint16)
  | "u32" => some (.int .uint32)
  | "i64" => some (.int .int64)
  | "f32" => some .float32
  | "f64" => some .float64
  | "decimal" => some .decimal
  | "string" => some .string
  | "blob" => some .blob
  | "duration" => some .duration
  | "datetime" => some .datetime
  | "datetimetz" => some .datetimeTz
  | "uuid" => some .uuid
  | "enum" => some .level
  | "opaque" => some .inert
  | _ => none

/-- The semantic type of the field. -/
def dataType : FieldKind → DataType
  | .bool => .bool
  | .int t => t
  | .float32 => .float32
  | .float64 => .float64
  | .decimal => .decimal
  | .string => .text
  | .blob => .blob
  | .duration => .duration
  | .datetime => .dateTime
  | .datetimeTz => .dateTimeOffset
  | .uuid => .uuid
  | .level => .enum
  | .inert => .unsupported "Opaque"

/-- The value of a field that was never set. -/
def default : FieldKind → Value
  | .bool => .bool false
  | .int _ => .int 0
  | .float32 | .float64 => .float 0.0
  | .decimal => .decimal ⟨0, 0⟩
  | .string => .text ""
  | .blob => .blob []
  | .duration => .interval Interval.zero
  | .datetime => .timestamp Timestamp.epoch
  | .datetimeTz => .timestampTz OffsetTimestamp.epoch
  | .uuid => .uuid Uuid.nil
  | .level => .int 0
  | .inert => .null

/-- A refusal naming the kind of the value and the field's type. -/
def mismatch (target : String) (v : Value) : Except TypeFault Value :=
  .error (.cannotConvert v.typeName target)

/-- A double as a field of 64-bit reals holds it. -/
def acceptDouble (v : Value) : Except TypeFault Float :=
  match v with
  | .null => .ok 0.0
  | .float x => .ok x
  | .int i => .ok (floatOfInt i)
  | .decimal d => .ok d.toFloat
  | other => .error (.cannotConvert other.typeName "f64")

/-- The value the field holds after storing `v`, for a field that is not optional. -/
def accept (k : FieldKind) (v : Value) : Except TypeFault Value :=
  match k with
  | .int t =>
    match v with
    | .null => .ok (.int 0)
    | .int i =>
      if t.width.admits i then .ok (.int i) else .error (.outOfRange (toString i) t.name)
    | .bool b => .ok (.int (if b then 1 else 0))
    | other => mismatch t.name other
  | .bool =>
    match v with
    | .null => .ok (.bool false)
    | .bool b => .ok (.bool b)
    | .int i => .ok (.bool (i == 1))
    | other => mismatch "bool" other
  | .float64 => (acceptDouble v).map .float
  | .float32 => (acceptDouble v).map fun x => .float (narrowToSingle x)
  | .decimal =>
    match v with
    | .null => .ok (.decimal ⟨0, 0⟩)
    | .decimal d => .ok (.decimal d)
    | .float x => (Value.decimalOfFloat x).map .decimal
    | .int i => .ok (.decimal ⟨i, 0⟩)
    | other => mismatch "decimal" other
  | .string =>
    match v with
    | .null => .ok (.text "")
    | .text s => .ok (.text s)
    | other => mismatch "String" other
  | .blob =>
    match v with
    | .null => .ok (.blob [])
    | .blob b => .ok (.blob b)
    | .text s => .ok (.blob s.toUTF8.toList)
    | other => mismatch "Vec<u8>" other
  | .duration =>
    match v with
    | .null => .ok (.interval Interval.zero)
    | .interval d => .ok (.interval d)
    | other => mismatch "TimeDelta" other
  | .datetime =>
    match v with
    | .null => .ok (.timestamp Timestamp.epoch)
    | .timestamp t => .ok (.timestamp t)
    | .timestampTz z => .ok (.timestamp z.utc)
    | other => mismatch "NaiveDateTime" other
  | .datetimeTz =>
    match v with
    | .null => .ok (.timestampTz OffsetTimestamp.epoch)
    | .timestampTz z => .ok (.timestampTz z)
    | .timestamp t => .ok (.timestampTz (OffsetTimestamp.ofUtc t))
    | other => mismatch "DateTime<FixedOffset>" other
  | .uuid =>
    match v with
    | .null => .ok (.uuid Uuid.nil)
    | .uuid u => .ok (.uuid u)
    | .text s => (Value.uuidOfText s).map .uuid
    | other => mismatch "Uuid" other
  | .level =>
    match v with
    | .null => .ok (.int 0)
    | .int i => if levelOrdinals.contains i then .ok (.int i)
      else .error (.notVariant v.displayText "Level")
    | other => .error (.notVariant other.displayText "Level")
  | .inert => .ok .null

end FieldKind

namespace FieldType

/-- The semantic type of the field. -/
def dataType (f : FieldType) : DataType := f.kind.dataType

/-- The value of a field that was never set: null when optional. -/
def default (f : FieldType) : Value := if f.optional then .null else f.kind.default

/-- The value the field holds after storing `v`: an optional field keeps null. -/
def accept (f : FieldType) (v : Value) : Except TypeFault Value :=
  if f.optional && v.isNull then .ok .null else f.kind.accept v

/-- The field type of a spec name, a leading `?` making it optional. -/
def ofName? (s : String) : Option FieldType :=
  match s.toList with
  | '?' :: rest => (FieldKind.ofName? (String.ofList rest)).map (⟨·, true⟩)
  | _ => (FieldKind.ofName? s).map (⟨·, false⟩)

end FieldType

end RecordMap
