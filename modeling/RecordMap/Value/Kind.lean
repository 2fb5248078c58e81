import RecordMap.Numeral.Width

/-!
# Semantic field types

A `DataType` says what a record field means, not how the engine stores it: the schema picks
a column declaration from it, and the codec a binding and a reading rule. `sqlType` is the
declaration: narrow integers and booleans are `integer`, 32-bit unsigned and 64-bit integers,
intervals and timestamps with offset `bigint`, all reals `float`, text `varchar` or
`varchar(n)`, identifiers `varchar(36)`, and zone-less timestamps `bigint` when stored as
ticks and `datetime` when stored as text. An unsupported type has no declaration.
-/

namespace RecordMap

open RecordMap.Numeral

/-- The meaning of a mapped field. -/
inductive DataType where
  | bool
  | int8
  | int16
  | int32
  | uint8
  | uint16
  | uint32
  | int64
  | float32
  | float64
  | decimal
  | text
  | blob
  | duration
  | dateTime
  | dateTimeOffset
  | enum
  | uuid
  | unsupported (name : String)
  deriving Repr, DecidableEq, Inhabited

namespace DataType

/-- The column declaration, given whether timestamps are stored as ticks and the text
length limit. -/
def sqlType (t : DataType) (ticks : Bool) (maxLength : Option Nat) : Option String :=
  match t with
  | .bool | .int8 | .int16 | .int32 | .uint8 | .uint16 | .enum => some "integer"
  | .uint32 | .int64 | .duration | .dateTimeOffset => some "bigint"
  | .float32 | .float64 | .decimal => some "float"
  | .text => some (match maxLength with
    | some n => "varchar(" ++ toString n ++ ")"
    | none => "varchar")
  | .blob => some "blob"
  | .dateTime => some (if ticks then "bigint" else "datetime")
  | .uuid => some "varchar(36)"
  | .unsupported _ => none

/-- Whether the type can back an auto-increment key: the fixed-width integers. -/
def isInteger : DataType → Bool
  | .int8 | .int16 | .int32 | .uint8 | .uint16 | .uint32 | .int64 => true
  | _ => false

/-- Whether the type is text. -/
def isText : DataType → Bool
  | .text => true
  | _ => false

/-- Whether the codec can bind and read the type. -/
def isSupported : DataType → Bool
  | .unsupported _ => false
  | _ => true

/-- Whether values of the type are whole numbers: the integers and enumerations. -/
def isIntegral (t : DataType) : Bool := t.isInteger || t == .enum

/-- The name of the type. -/
def name : DataType → String
  | .bool => "bool"
  | .int8 => "i8"
  | .int16 => "i16"
  | .int32 => "i32"
  | .uint8 => "u8"
  | .uint16 => "u16"
  | .uint32 => "u32"
  | .int64 => "i64"
  | .float32 => "f32"
  | .float64 => "f64"
  | .decimal => "decimal"
  | .text => "text"
  | .blob => "blob"
  | .duration => "duration"
  | .dateTime => "datetime"
  | .dateTimeOffset => "datetime with offset"
  | .enum => "enum"
  | .uuid => "uuid"
  | .unsupported n => n

/-- The types that have a fixed name, in declaration order. -/
def named : List DataType :=
  [.bool, .int8, .int16, .int32, .uint8, .uint16, .uint32, .int64, .float32, .float64, .decimal,
    .text, .blob, .duration, .dateTime, .dateTimeOffset, .enum, .uuid]

/-- The type of a name, any unknown name being an unsupported type of that name. -/
def ofName (s : String) : DataType :=
  (named.find? (·.name == s)).getD (.unsupported s)

/-- The constructor name of the type, as structural text shows it. -/
def variantName : DataType → String
  | .bool => "Bool"
  | .int8 => "Int8"
  | .int16 => "Int16"
  | .int32 => "Int32"
  | .uint8 => "UInt8"
  | .uint16 => "UInt16"
  | .uint32 => "UInt32"
  | .int64 => "Int64"
  | .float32 => "Float32"
  | .float64 => "Float64"
  | .decimal => "Decimal"
  | .text => "Text"
  | .blob => "Blob"
  | .duration => "Duration"
  | .dateTime => "DateTime"
  | .dateTimeOffset => "DateTimeOffset"
  | .enum => "Enum"
  | .uuid => "Uuid"
  | .unsupported n => "Unsupported(\"" ++ n ++ "\")"

/-- The range a whole-number type admits: its own width, enumerations that of 32-bit
integers, and every other type the 64-bit range. -/
def width : DataType → IntWidth
  | .int8 => .i8
  | .int16 => .i16
  | .int32 | .enum => .i32
  | .uint8 => .u8
  | .uint16 => .u16
  | .uint32 => .u32
  | _ => .i64

end DataType

end RecordMap
