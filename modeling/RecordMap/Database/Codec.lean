import RecordMap.Sql.Datum
import RecordMap.Value.Coerce
import RecordMap.Time.Parse
import RecordMap.Numeral.Parse
import RecordMap.Text.Blank
import RecordMap.Text.Utf8
import RecordMap.Numeral.Integral
import RecordMap.Numeral.Text

/-!
# Values in and out of the engine

`bindValue` turns a value into what the engine stores, and `readColumn` turns what the engine
gives back into a value of a column's type.

* Timestamps, instants and intervals are stored as ticks, hundreds of nanoseconds: a timestamp
  from 0001-01-01T00:00:00, so that the Unix epoch is `621355968000000000` ticks. A timestamp may
  instead be stored as its text with nine fraction digits. Each conversion fails when the count
  leaves the 64-bit range.
* Booleans are stored as 0 and 1, decimals as doubles, identifiers as their hyphenated text.
  A NaN double is stored as null.
* Reading is lenient, as a reader of untyped storage has to be: a whole-number type reads a
  double by truncation and text by its trimmed integer (0 when it has none), a real type text by
  its trimmed number, text any value by its text, bytes any value by its bytes; a timestamp reads
  text in the ISO form, with a blank, or as a date alone, and a number as ticks. A boolean is true
  only for 1. Null reads as null in every type.
-/

namespace RecordMap

open RecordMap.Numeral RecordMap.Time RecordMap.Text
open RecordMap.Sql (Datum)

def ticksPerSecond : Int := 10000000

/-- The ticks of the Unix epoch, counted from 0001-01-01T00:00:00. -/
def unixEpochTicks : Int := 621355968000000000

/-- The integer when it fits in 64 signed bits: one step of a checked computation. -/
def checkedI64 (i : Int) : Option Int := if fitsI64 i then some i else none

/-- The ticks of a timestamp; a leap second counts as the second before it and one more. -/
def Time.Timestamp.ticks? (t : Timestamp) : Except TypeFault Int :=
  let extra : Nat := if t.leap then 1000000000 else 0
  let counted := do
    let a ← checkedI64 (t.seconds * ticksPerSecond)
    let b ← checkedI64 (a + ((t.subsecond + extra) / 100 : Nat))
    checkedI64 (b + unixEpochTicks)
  match counted with
  | some n => .ok n
  | none => .error (.tickRange t.display)

/-- The timestamp of a tick count. -/
def timestampOfTicks (ticks : Int) : Except TypeFault Timestamp :=
  match checkedI64 (ticks - unixEpochTicks) with
  | some relative =>
    let t := Timestamp.ofNanos ((relative / ticksPerSecond) * nanosPerSecond + (relative % ticksPerSecond) * 100)
    if t.inRange then .ok t else .error (.tickRange (toString ticks))
  | none => .error (.tickRange (toString ticks))

/-- The ticks of an interval, its seconds and fraction each rounded toward zero. -/
def Time.Interval.ticks? (d : Interval) : Except TypeFault Int :=
  let counted := do
    let a ← checkedI64 (d.truncSeconds * ticksPerSecond)
    checkedI64 (a + d.truncSubsecond.tdiv 100)
  match counted with
  | some n => .ok n
  | none => .error (.tickRange d.display)

/-- The interval of a tick count. -/
def intervalOfTicks (ticks : Int) : Interval := ⟨ticks * 100⟩

/-- What the engine stores for a value; `ticks` chooses how timestamps are stored. -/
def bindValue (ticks : Bool) : Value → Except TypeFault Datum
  | .null => .ok .null
  | .bool b => .ok (.integer (if b then 1 else 0))
  | .int i => .ok (.integer i)
  | .float x => .ok (Datum.ofReal x)
  | .decimal d => .ok (Datum.ofReal d.toFloat)
  | .text s => .ok (Datum.ofString s)
  | .blob b => .ok (.blob b)
  | .timestamp t =>
    if ticks then (t.ticks?).map Datum.integer else .ok (Datum.ofString t.exchangeText)
  | .timestampTz z => (z.utc.ticks?).map Datum.integer
  | .interval d => (d.ticks?).map Datum.integer
  | .uuid u => .ok (Datum.ofString u.hyphenated)

/-- The text of a stored value as a lenient reader sees it: numbers in their shortest text,
bytes as UTF-8 with bad sequences replaced, null as empty. -/
def Sql.Datum.readText : Datum → String
  | .null => ""
  | .integer i => toString i
  | .real x => FloatStyle.plain.render x
  | .text s => textOf s
  | .blob b => decodeLossy b

/-- Stored text as a string, when its bytes are valid UTF-8. -/
def strictText (b : Sql.Bytes) : Option String := String.fromUTF8? (ByteArray.mk b.toArray)

/-- The integer a lenient reader takes from a stored value: text that is not valid UTF-8 reads
as 0. -/
def Sql.Datum.readInt : Datum → Int
  | .integer i => i
  | .real x => saturateI64 x
  | .text s =>
    match strictText s with
    | some t =>
      match readInt? (trimBlank t) with
      | some i => if fitsI64 i then i else 0
      | none => 0
    | none => 0
  | _ => 0

/-- The double a lenient reader takes from a stored value. -/
def Sql.Datum.readFloat : Datum → Float
  | .integer i => floatOfInt i
  | .real x => x
  | .text s => ((strictText s).bind fun t => readFloat? (trimBlank t)).getD 0.0
  | _ => 0.0

/-- The bytes a lenient reader takes from a stored value. -/
def Sql.Datum.readBytes : Datum → List UInt8
  | .text s => s
  | .blob b => b
  | .null => []
  | other => utf8Bytes other.readText

/-- A stored timestamp text, or why it is none. -/
def parseStoredTimestamp (text : String) : Except TypeFault Timestamp :=
  let t := trimBlank text
  match Timestamp.parseStored? t with
  | some ts => .ok ts
  | none => .error (.badTimestamp t)

/-- A stored value read as a column of a type. -/
def readColumn (d : Datum) (t : DataType) : Except TypeFault Value :=
  match d with
  | .null => .ok .null
  | _ =>
    match t with
    | .bool => .ok (.bool (d.readInt == 1))
    | .int8 | .int16 | .int32 | .uint8 | .uint16 | .uint32 | .int64 | .enum => .ok (.int d.readInt)
    | .float32 | .float64 => .ok (.float d.readFloat)
    | .decimal => (Value.decimalOfFloat d.readFloat).map Value.decimal
    | .text => .ok (.text d.readText)
    | .blob => .ok (.blob d.readBytes)
    | .duration => .ok (.interval (intervalOfTicks d.readInt))
    | .dateTime =>
      match d with
      | .text s => (parseStoredTimestamp (Sql.textOf s)).map Value.timestamp
      | _ => (timestampOfTicks d.readInt).map Value.timestamp
    | .dateTimeOffset => (timestampOfTicks d.readInt).map fun u => .timestampTz (OffsetTimestamp.ofUtc u)
    | .uuid => (Value.uuidOfText d.readText).map Value.uuid
    | .unsupported n => .error (.cannotRead n)

/-- A stored value read by its storage class. -/
def readDynamic : Datum → Value
  | .null => .null
  | .integer i => .int i
  | .real x => .float x
  | .text s => .text (Sql.textOf s)
  | .blob b => .blob b

end RecordMap
