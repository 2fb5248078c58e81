import RecordMap.Json.Number
import RecordMap.Numeral.Parse
import RecordMap.Time.Parse
import RecordMap.Query.Host
import RecordMap.Error

/-!
# Values on the wire

Requests and answers carry values as JSON: null, booleans and integers as themselves, text as
a string, and every other kind as a one-member object naming it (`float`, `decimal` with its
`scale`, `blob` in hexadecimal, `timestamp`, `timestamptz`, `interval` as floored seconds and
nanoseconds, `uuid`). An input number without point or exponent that fits 64 bits is an
integer, any other number a double; a double may also be given as text such as `NaN` or
`-inf`. A text `<uuid#N>` stands for the N-th identifier generated while answering the
request.

Host values add `{"list": …}`, `{"object": …}` with an optional map kind, and records of a
table slot; objects are written back as their type name.

A request that does not follow this form is `malformed`; a failure of the library while
decoding (a record value its field refuses) is reported as that failure.
-/

namespace RecordMap.Wire

open RecordMap.Numeral RecordMap.Time

/-- Why a request could not be answered normally. -/
inductive Failure where
  | malformed (message : String)
  | library (e : Error)
  | panic
  deriving Repr, Inhabited

abbrev Decoded (α : Type) := Except Failure α

def malformed {α : Type} (message : String) : Decoded α := .error (.malformed message)

def liftOutcome {α : Type} (o : Outcome α) : Decoded α := o.mapError Failure.library

/-- A type fault as a library failure. -/
def liftFault {α : Type} (o : Except TypeFault α) : Decoded α :=
  o.mapError fun f => Failure.library (.unsupportedType f)

/-- A required member of an object. -/
def field (j : Json) (name : String) : Decoded Json :=
  match j.get? name with
  | some v => pure v
  | none => malformed ("missing field " ++ name)

/-- A required string member. -/
def fieldStr (j : Json) (name : String) : Decoded String := do
  match (← field j name).str? with
  | some s => pure s
  | none => malformed ("field " ++ name ++ " is not a string")

/-- An optional member that is neither absent nor null. -/
def optField (j : Json) (name : String) : Option Json :=
  match j.get? name with
  | some .null => none
  | other => other

/-- A 64-bit integer document. -/
def asInt (j : Json) : Decoded Int :=
  match j.int? with
  | some i => pure i
  | none => malformed "expected an integer"

/-- A natural number document. -/
def asNat (j : Json) : Decoded Nat :=
  match j.nat? with
  | some n => pure n
  | none => malformed "expected an unsigned integer"

/-- A boolean document. -/
def asBool (j : Json) : Decoded Bool :=
  match j.bool? with
  | some b => pure b
  | none => malformed "expected a boolean"

/-- A string document. -/
def asStr (j : Json) : Decoded String :=
  match j.str? with
  | some s => pure s
  | none => malformed "expected a string"

/-- An array document. -/
def asArr (j : Json) : Decoded (List Json) :=
  match j.arr? with
  | some a => pure a
  | none => malformed "expected an array"

/-- Bytes from pairs of hexadecimal digits. -/
def hexBytes? (s : String) : Option (List UInt8) :=
  let rec go : List Char → Option (List UInt8)
    | [] => some []
    | a :: b :: rest => do
      let x ← Uuid.hexValue? a
      let y ← Uuid.hexValue? b
      let tail ← go rest
      pure ((x * 16 + y).toUInt8 :: tail)
    | [_] => none
  go s.toList

/-- What a text on the wire means: the N-th generated identifier, or itself. -/
def resolveText (generated : List Uuid) (s : String) : Value :=
  let inner := (s.toList.drop 6).dropLast
  if s.startsWith "<uuid#" && s.endsWith ">" && !inner.isEmpty && inner.all Char.isDigit then
    match generated[digitsToNat inner]? with
    | some u => .uuid u
    | none => .text s
  else .text s

/-- A double given as a number or as text. -/
def decodeFloat (j : Json) : Decoded Float :=
  match j with
  | .number _ =>
    match j.float? with
    | some x => pure x
    | none => malformed "number out of range"
  | .str s =>
    match readFloat? s with
    | some x => pure x
    | none => malformed ("invalid float " ++ s)
  | _ => malformed "expected a float"

/-- Decodes a value. -/
def decodeValue (generated : List Uuid) (j : Json) : Decoded Value :=
  match j with
  | .null => pure .null
  | .bool b => pure (.bool b)
  | .number _ =>
    match j.int? with
    | some i => pure (.int i)
    | none => (decodeFloat j).map .float
  | .str s => pure (resolveText generated s)
  | .obj _ =>
    if let some x := j.get? "float" then (decodeFloat x).map .float
    else if let some d := j.get? "decimal" then do
      let digits ← asStr d
      let scale ← asInt (← field j "scale")
      match readInt? digits with
      | some n =>
        if IntWidth.i128.admits n && IntWidth.i16.admits scale then pure (.decimal ⟨n, scale⟩)
        else malformed "decimal out of range"
      | none => malformed "invalid decimal digits"
    else if let some b := j.get? "blob" then do
      match hexBytes? (← asStr b) with
      | some bs => pure (.blob bs)
      | none => malformed "invalid hex"
    else if let some t := j.get? "timestamp" then do
      match Timestamp.parseIso? (← asStr t) with
      | some ts => pure (.timestamp ts)
      | none => malformed "invalid timestamp"
    else if let some t := j.get? "timestamptz" then do
      match OffsetTimestamp.parse? (← asStr t) with
      | some ts => pure (.timestampTz ts)
      | none => malformed "invalid timestamptz"
    else if let some t := j.get? "interval" then do
      match ← asArr t with
      | [s, n] =>
        let secs ← asInt s
        let nanos ← asNat n
        let d : Interval := ⟨secs * 1000000000 + nanos⟩
        if nanos < 1000000000 && d.inRange then pure (.interval d) else malformed "invalid interval"
      | _ => malformed "invalid interval"
    else if let some u := j.get? "uuid" then do
      match Uuid.parse (← asStr u) with
      | .ok id => pure (.uuid id)
      | .error _ => malformed "invalid uuid"
    else malformed "unknown value encoding"
  | .arr _ => malformed "unknown value encoding"

/-- Encodes a value. -/
def encodeValue : Value → Json
  | .null => .null
  | .bool b => .bool b
  | .int i => .ofInt i
  | .float x => .obj [("float", .str (FloatStyle.plain.render x))]
  | .decimal d => .obj [("decimal", .str (toString d.digits)), ("scale", .ofInt d.scale),
      ("text", .str d.render)]
  | .text s => .str s
  | .blob bs => .obj [("blob", .str (Value.hexText bs))]
  | .timestamp t => .obj [("timestamp", .str t.exchangeText)]
  | .timestampTz t => .obj [("timestamptz", .str t.exchangeText)]
  | .interval d => .obj [("interval", .arr [.ofInt d.seconds, .ofNat d.subsecond])]
  | .uuid u => .obj [("uuid", .str u.hyphenated)]

/-- Encodes a host value. -/
def encodeHost : Host → Json
  | .scalar v => encodeValue v
  | .list items => .obj [("list", .arr (items.map encodeValue))]
  | .object _ n _ => .obj [("object", .str n)]

/-- An error as an answer object: kind, message, and the code and violating columns when
they apply. -/
def encodeError (e : Error) : Json :=
  let base := [("error", Json.str e.kind), ("message", .str e.message)]
  let code := match e.code? with
    | some c => [("code", Json.ofInt c)]
    | none => []
  let extra := match e with
    | .notNull _ record =>
      [("not_null_columns", Json.arr (e.notNullColumns.map Json.str)),
       ("record", match record with
         | some cols => .arr (cols.map fun c => encodeValue c.value)
         | none => .null)]
    | _ => []
  .obj (base ++ code ++ extra)

/-- A failure as an answer object. -/
def encodeFailure : Failure → Json
  | .malformed m => .obj [("error", .str "DriverError"), ("message", .str m)]
  | .library e => encodeError e
  | .panic => .obj [("error", .str "panic"), ("message", .str "requested panic")]

end RecordMap.Wire
