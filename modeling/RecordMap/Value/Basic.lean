import RecordMap.Value.Decimal
import RecordMap.Value.Kind
import RecordMap.Time.Clock
import RecordMap.Uuid

/-!
# Values

A `Value` is one dynamically typed field value as records, expressions and the codec pass it
around: null, a boolean, a 64-bit integer, a double, a decimal, text, bytes, a timestamp with
or without offset, an interval or an identifier.

`Value.same` is the equality of values: the same kind and equal contents, where doubles compare
as numbers (a NaN equals nothing, `0.0` equals `-0.0`), decimals compare digits and scale, and
timestamps with offset compare the instant alone. `Value.displayText` is the text a value shows
to a user: `NULL` for null, shortest digits for doubles, `x'…'` hexadecimal for bytes, RFC 3339
for timestamps with offset and ISO 8601 for intervals.
-/

namespace RecordMap

open RecordMap.Numeral RecordMap.Time

/-- A dynamically typed field value. -/
inductive Value where
  | null
  | bool (b : Bool)
  | int (i : Int)
  | float (x : Float)
  | decimal (d : Decimal)
  | text (s : String)
  | blob (bytes : List UInt8)
  | timestamp (t : Timestamp)
  | timestampTz (t : OffsetTimestamp)
  | interval (d : Interval)
  | uuid (u : Uuid)
  deriving Repr, Inhabited

namespace Value

/-- Whether the value is null. -/
def isNull : Value → Bool
  | .null => true
  | _ => false

/-- Whether the value is text. -/
def isText : Value → Bool
  | .text _ => true
  | _ => false

/-- The name of the value's kind. -/
def typeName : Value → String
  | .null => "null"
  | .bool _ => "bool"
  | .int _ => "integer"
  | .float _ => "float"
  | .decimal _ => "decimal"
  | .text _ => "text"
  | .blob _ => "blob"
  | .timestamp _ => "timestamp"
  | .timestampTz _ => "timestamp with offset"
  | .interval _ => "interval"
  | .uuid _ => "uuid"

/-- Two lowercase hexadecimal digits of a byte. -/
def byteHex (b : UInt8) : String := String.ofList (Uuid.hexDigits 2 b.toNat)

def hexText (bytes : List UInt8) : String := String.join (bytes.map byteHex)

/-- The text a value shows to a user. -/
def displayText : Value → String
  | .null => "NULL"
  | .bool b => if b then "true" else "false"
  | .int i => toString i
  | .float x => FloatStyle.plain.render x
  | .decimal d => d.render
  | .text s => s
  | .blob bs => "x'" ++ hexText bs ++ "'"
  | .timestamp t => t.display
  | .timestampTz t => t.rfc3339
  | .interval d => d.display
  | .uuid u => u.hyphenated

/-- The equality of values: same kind and equal contents, doubles compared as numbers and
timestamps with offset by their instant. -/
def same : Value → Value → Bool
  | .null, .null => true
  | .bool a, .bool b => a == b
  | .int a, .int b => a == b
  | .float a, .float b => a == b
  | .decimal a, .decimal b => a == b
  | .text a, .text b => a == b
  | .blob a, .blob b => a == b
  | .timestamp a, .timestamp b => a == b
  | .timestampTz a, .timestampTz b => a.utc == b.utc
  | .interval a, .interval b => a == b
  | .uuid a, .uuid b => a == b
  | _, _ => false

/-- Pointwise equality of lists of values. -/
def sameList : List Value → List Value → Bool
  | [], [] => true
  | a :: as, b :: bs => same a b && sameList as bs
  | _, _ => false

end Value

end RecordMap
