import RecordMap.Value.Basic
import RecordMap.Text.Quoted

/-!
# Structural text of values

`Value.debugText` writes a value as its constructor applied to its contents, the form that
error messages and structural dumps embed: `Int(-7)`, `Float(2.5)` (doubles always with a
point or an exponent), `Text("a\"b")`, `Blob([10, 255])`, `Decimal(Decimal { digits: 15,
scale: 1 })`, timestamps in ISO form with `T`, and intervals by their floored seconds and
nanoseconds.
-/

namespace RecordMap

open RecordMap.Numeral RecordMap.Text

/-- A list written `[a, b]`. -/
def listText (items : List String) : String := "[" ++ ", ".intercalate items ++ "]"

/-- An optional thing written `Some(x)` or `None`. -/
def optionText {α : Type} (f : α → String) : Option α → String
  | some a => "Some(" ++ f a ++ ")"
  | none => "None"

/-- Structural text of a decimal. -/
def Decimal.debugText (d : Decimal) : String :=
  "Decimal \x7b digits: " ++ toString d.digits ++ ", scale: " ++ toString d.scale ++ " \x7d"

/-- Structural text of an interval. -/
def Time.Interval.debugText (d : Time.Interval) : String :=
  "TimeDelta \x7b secs: " ++ toString d.seconds ++ ", nanos: " ++ toString d.subsecond ++ " \x7d"

/-- Structural text of a value. -/
def Value.debugText : Value → String
  | .null => "Null"
  | .bool b => "Bool(" ++ (if b then "true" else "false") ++ ")"
  | .int i => "Int(" ++ toString i ++ ")"
  | .float x => "Float(" ++ FloatStyle.debug.render x ++ ")"
  | .decimal d => "Decimal(" ++ d.debugText ++ ")"
  | .text s => "Text(" ++ debugQuote s ++ ")"
  | .blob bs => "Blob(" ++ listText (bs.map fun b => toString b.toNat) ++ ")"
  | .timestamp t => "Timestamp(" ++ t.debugText ++ ")"
  | .timestampTz t => "TimestampTz(" ++ t.debugText ++ ")"
  | .interval d => "Interval(" ++ d.debugText ++ ")"
  | .uuid u => "Uuid(" ++ u.hyphenated ++ ")"

end RecordMap
