import RecordMap.Sql.Functions
import RecordMap.Sql.RealRead
import RecordMap.Sql.Json.Read
import RecordMap.Sql.Json.Path

/-!
# JSON functions

The JSON functions read their first argument as JSON: a blob that has the outline of binary
JSON as that, anything else as JSON text (an empty text, or text that does not read, is
`malformed JSON`); null gives null.

Values passed to JSON functions carry a mark when another JSON function made them (`JsonArg`):
marked text is JSON and is taken as it is, other text is a string. A value is put into JSON as
`null`, a number in its text, a string, the JSON of binary JSON, or, for any other blob, the
error `JSON cannot hold BLOB values`.

Results that are JSON text carry the mark; the `jsonb` variants return binary JSON instead. A
path must start with `$` (else `bad JSON path`); the `->` and `->>` operators also take a bare
key, an index, or `[N]`.
-/

namespace RecordMap.Sql

open RecordMap.Numeral

/-- A value passed to a JSON function, with whether a JSON function made it. -/
abbrev JsonArg := Datum × Bool

/-- The fuel for walking a JSON value; deeper values than this are not made by reading text. -/
def jsonFuel : Nat := 100000

def malformedJson : Fault := Fault.error "malformed JSON"

/-- A blob that is not binary JSON, put into JSON. -/
def blobInJson : Fault := Fault.error "JSON cannot hold BLOB values"

/-- A path that does not read. -/
def badJsonPath (path : Bytes) : Fault :=
  let quoted := String.join ((textOf path).toList.map fun c => if c == '\'' then "''" else c.toString)
  Fault.error ("bad JSON path: '" ++ quoted ++ "'")

/-- JSON text read into a node. -/
def readJsonArg (b : Bytes) : Except Fault JsonNode :=
  if b.isEmpty then throw malformedJson
  else
    match readJsonText b with
    | .ok node _ => pure node
    | .error _ => throw malformedJson

/-- The JSON value of a function's first argument: none for null. -/
def jsonInput (d : Datum) : Except Fault (Option JsonNode) :=
  match d with
  | .null => pure none
  | .blob b =>
    if looksLikeJsonb b then
      match JsonNode.decode? b with
      | some node => pure (some node)
      | none => throw malformedJson
    else some <$> readJsonArg b
  | d => some <$> readJsonArg (d.text?.getD [])

/-- The text of a double as JSON stores it: infinity as `9e999`. -/
def realJsonText (x : Float) : Bytes :=
  let t := bytesOf (realText x)
  match t with
  | 73 :: _ => bytesOf "9e999"
  | 45 :: 73 :: _ => bytesOf "-9e999"
  | _ => t

/-- A value as JSON text: null, a number (infinity as `9.0e+999`), a string, marked text as it
is, or binary JSON as text. -/
def jsonTextOf (v : JsonArg) : Except Fault Bytes :=
  match v with
  | (.null, _) => pure (bytesOf "null")
  | (.integer i, _) => pure (bytesOf (toString i))
  | (.real x, _) =>
    match bytesOf (realText x) with
    | 73 :: _ => pure (bytesOf "9.0e+999")
    | 45 :: 73 :: _ => pure (bytesOf "-9.0e+999")
    | t => pure t
  | (.text t, true) => pure t
  | (.text t, false) => pure (quoteJson t)
  | (.blob b, _) =>
    if looksLikeJsonb b then
      match (JsonNode.decode? b).bind JsonNode.render? with
      | some t => pure t
      | none => throw malformedJson
    else throw blobInJson

/-- A value as a JSON node, for the value of an edit. -/
def jsonNodeOf (v : JsonArg) : Except Fault JsonNode :=
  match v with
  | (.null, _) => pure .null
  | (.integer i, _) => pure (.number .integer (bytesOf (toString i)))
  | (.real x, _) => pure (.number .real (realJsonText x))
  | (.text t, true) => readJsonArg t
  | (.text t, false) => pure (.string .raw t)
  | (.blob b, _) =>
    if looksLikeJsonb b then
      match JsonNode.decode? b with
      | some node => pure node
      | none => throw malformedJson
    else throw blobInJson

/-- A node as a result: marked JSON text, or binary JSON. -/
def jsonResult (binary : Bool) (node : JsonNode) : Except Fault JsonArg :=
  if binary then pure (.blob node.encode, false)
  else
    match node.render? with
    | some t => pure (.text t, true)
    | none => throw malformedJson

/-- Built JSON text as a result: marked, or read back into binary JSON. -/
def builtResult (binary : Bool) (text : Bytes) : JsonArg :=
  if binary then
    match readJsonText text with
    | .ok node _ => (.blob node.encode, false)
    | .error _ => (.blob [], false)
  else (.text text, true)

def joinComma (parts : List Bytes) : Bytes := (parts.intersperse [44]).flatten

/-- The integer a JSON integer's text stands for: none when it is not one; a text too large
for 64 bits reads as a double. -/
def jsonIntegerValue (t : Bytes) : Except Fault Datum := do
  let (neg, digits) : Bool × Bytes := match t with
    | 45 :: r => (true, r)
    | r => (false, r)
  if neg && t.length < 2 then throw malformedJson
  let toDouble : Except Fault Datum :=
    let r := readReal t
    match r.verdict with
    | .integer | .real => pure (.real r.value)
    | _ => throw malformedJson
  let wrap (v : Int) : Int := if v > maxI64 then v - Nat.pow 2 64 else v
  match digits with
  | 48 :: x :: rest =>
    if x == 120 || x == 88 then
      let body := rest.dropWhile (· == 48)
      let hex := body.takeWhile isHexByte
      let u : Int := wrap ((hex.foldl (fun a c => 16 * a + hexValue c) 0) % Nat.pow 2 64)
      if hex.length > 16 then toDouble
      else if hex.length != body.length then throw malformedJson
      else pure (.integer (if neg then wrap (-u % Nat.pow 2 64) else u))
    else decimal neg digits toDouble
  | _ => decimal neg digits toDouble
where
  decimal (neg : Bool) (digits : Bytes) (toDouble : Except Fault Datum) : Except Fault Datum :=
    let r := readInt digits
    match r.verdict with
    | .exact => pure (.integer (if neg then -r.value else r.value))
    | .edge => if neg then pure (.integer minI64) else toDouble
    | .extra => throw malformedJson
    | _ => toDouble

/-- The SQL value of a node: null, 1 or 0, a number, the string's text, or JSON text (marked
when `mark`) or binary JSON for an array or an object. -/
def jsonSqlValue (binary mark : Bool) (node : JsonNode) : Except Fault JsonArg :=
  match node with
  | .null => pure (.null, false)
  | .bool b => pure (.integer (if b then 1 else 0), false)
  | .number .integer t | .number .hex t => do
    let v ← jsonIntegerValue t
    pure (v, false)
  | .number _ t =>
    let r := readReal t
    match r.verdict with
    | .integer | .real => pure (.real r.value, false)
    | _ => throw malformedJson
  | .string f t => pure (.text (if f.unescaped then t else unescapeJson t), false)
  | .array _ | .object _ =>
    if binary then pure (.blob node.encode, false)
    else
      match node.render? with
      | some t => pure (.text t, mark)
      | none => throw malformedJson

/-- Whether a text is letters, digits and underscores only. -/
def allWordBytes (b : Bytes) : Bool := b.all fun c => isAlnumByte c || c == 95

/-- The path an operand of `->` or `->>` stands for, without its `$`. -/
def shortPath (d : Datum) (p : Bytes) : Bytes :=
  match d with
  | .integer _ => [91] ++ p ++ [93]
  | _ =>
    if allWordBytes p then [46] ++ p
    else if p.head? == some 91 && p.length ≥ 3 && p.getLast? == some 93 then p
    else [46, 34] ++ p ++ [34]

/-- What a path argument leads to in a node, for the extracting functions: the outcome, or
null for a null path. -/
def followPath (node : JsonNode) (arg : Datum) (short : Bool) : Except Fault (Option PathOutcome) :=
  match arg.text? with
  | none => pure none
  | some raw =>
    let p := untilNul raw
    match p with
    | 36 :: rest => pure (some (node.locate jsonFuel .read rest).1)
    | _ =>
      if short then pure (some (node.locate jsonFuel .read (shortPath arg p)).1)
      else throw (badJsonPath p)

/-- `json_extract` and the arrow operators. -/
def jsonExtract (binary : Bool) (arrow : Option Bool) (args : List JsonArg) : Except Fault JsonArg := do
  if args.length < 2 then return (.null, false)
  let some node ← jsonInput (args.headD (.null, false)).1 | return (.null, false)
  let paths := args.drop 1
  let single := paths.length == 1
  let step (acc : Option (List Bytes)) (a : JsonArg) : Except Fault (Option (List Bytes)) := do
    match acc with
    | none => pure none
    | some parts =>
      match ← followPath node a.1 arrow.isSome with
      | none => pure none
      | some (.found n) =>
        match n.render? with
        | some t => pure (some (parts ++ [t]))
        | none => throw malformedJson
      | some .notFound => pure (some (parts ++ [bytesOf "null"]))
      | some .badPath =>
        throw (badJsonPath (untilNul ((a.1.text?).getD [])))
  if single then
    let a := paths.headD (.null, false)
    match ← followPath node a.1 arrow.isSome with
    | none => pure (.null, false)
    | some (.found n) =>
      match arrow with
      | some true =>
        match n.render? with
        | some t => pure (.text t, true)
        | none => throw malformedJson
      | some false => jsonSqlValue false false n
      | none => jsonSqlValue binary (!binary) n
    | some .notFound => pure (.null, false)
    | some .badPath => throw (badJsonPath (untilNul ((a.1.text?).getD [])))
  else
    match ← paths.foldlM step (some []) with
    | some parts => pure (builtResult binary ([91] ++ joinComma parts ++ [93]))
    | none => pure (.null, false)

/-- A path argument's bytes, when it starts with `$`: none for null, an error otherwise. -/
def editPath (d : Datum) : Except Fault (Option Bytes) :=
  match d.text? with
  | none => pure none
  | some raw =>
    let p := untilNul raw
    match p with
    | 36 :: _ => pure (some p)
    | _ => throw (badJsonPath p)

/-- Pairs up paths and values. -/
def pairArgs : List JsonArg → List (JsonArg × JsonArg)
  | a :: b :: rest => (a, b) :: pairArgs rest
  | _ => []

/-- `json_insert`, `json_replace` and `json_set`. -/
def jsonEdit (binary : Bool) (name : String) (make : JsonNode → JsonEdit) (args : List JsonArg) :
    Except Fault JsonArg := do
  if args.length % 2 == 0 then
    throw (Fault.error s!"json_{name}() needs an odd number of arguments")
  let some root ← jsonInput (args.headD (.null, false)).1 | return (.null, false)
  let step (root : JsonNode) (pv : JsonArg × JsonArg) : Except Fault JsonNode := do
    let (p, v) := pv
    match p.1 with
    | .null => pure root
    | _ =>
      let some path ← editPath p.1 | pure root
      let value ← jsonNodeOf v
      match path with
      | [36] =>
        match make value with
        | .insert _ => pure root
        | _ => pure value
      | _ =>
        match root.locate jsonFuel (make value) (path.drop 1) with
        | (.found _, some r) => pure r
        | (.found _, none) => pure root
        | (.notFound, _) => pure root
        | (.badPath, _) => throw (badJsonPath path)
  let root ← (pairArgs (args.drop 1)).foldlM step root
  jsonResult binary root

/-- `json_remove`, and `json` with no paths. -/
def jsonRemove (binary : Bool) (args : List JsonArg) : Except Fault JsonArg := do
  let some root ← jsonInput (args.headD (.null, false)).1 | return (.null, false)
  let step (acc : Option JsonNode) (a : JsonArg) : Except Fault (Option JsonNode) := do
    match acc with
    | none => pure none
    | some root =>
      match a.1.text? with
      | none => pure none
      | some raw =>
        let path := untilNul raw
        match path with
        | [36] => pure none
        | 36 :: rest =>
          match root.locate jsonFuel .remove rest with
          | (.found _, some r) => pure (some r)
          | (.found _, none) => pure none
          | (.notFound, _) => pure (some root)
          | (.badPath, _) => throw (badJsonPath path)
        | _ => throw (badJsonPath path)
  match ← (args.drop 1).foldlM step (some root) with
  | some r => jsonResult binary r
  | none => pure (.null, false)

/-- `json_type`. -/
def jsonTypeOf (args : List JsonArg) : Except Fault JsonArg := do
  let some root ← jsonInput (args.headD (.null, false)).1 | return (.null, false)
  match args with
  | [_, (p, _)] =>
    match p.text? with
    | none => pure (.null, false)
    | some raw =>
      let path := untilNul raw
      match path with
      | 36 :: rest =>
        match (root.locate jsonFuel .read rest).1 with
        | .found n => pure (Datum.ofString n.typeName, false)
        | .notFound => pure (.null, false)
        | .badPath => throw (badJsonPath path)
      | _ => throw (badJsonPath path)
  | _ => pure (Datum.ofString root.typeName, false)

/-- `json_array_length`. -/
def jsonArrayLength (args : List JsonArg) : Except Fault JsonArg := do
  let some root ← jsonInput (args.headD (.null, false)).1 | return (.null, false)
  match args with
  | [_, (p, _)] =>
    match p.text? with
    | none => pure (.null, false)
    | some raw =>
      let path := untilNul raw
      let steps := match path with
        | 36 :: rest => rest
        | _ => [64]
      match (root.locate jsonFuel .read steps).1 with
      | .found n => pure (.integer n.count, false)
      | .notFound => pure (.null, false)
      | .badPath => throw (badJsonPath path)
  | _ => pure (.integer root.count, false)

/-- `json_valid`: whether the first argument is JSON of the kinds the flags allow (1 plain
JSON text, 2 JSON5 text, 4 binary JSON by its outline, 8 binary JSON checked through). -/
def jsonValid (args : List JsonArg) : Except Fault JsonArg := do
  let flags ← match args with
    | [_, (f, _)] =>
      let v := f.intValue
      if v < 1 || v > 15 then
        throw (Fault.error "FLAGS parameter to json_valid() must be between 1 and 15")
      else pure v.toNat
    | _ => pure 1
  let x := (args.headD (.null, false)).1
  let asText (b : Bytes) : Bool :=
    if flags % 4 == 0 || b.isEmpty then false
    else
      match readJsonText b with
      | .ok _ nonstd => flags / 2 % 2 == 1 || !nonstd
      | .error _ => false
  match x with
  | .null => pure (.null, false)
  | .blob b =>
    if looksLikeJsonb b then
      if flags / 4 % 2 == 1 then pure (.integer 1, false)
      else if flags / 8 % 2 == 1 then
        pure (.integer (if (JsonNode.decode? b).isSome then 1 else 0), false)
      else pure (.integer 0, false)
    else pure (.integer (if asText b then 1 else 0), false)
  | d => pure (.integer (if asText (d.text?.getD []) then 1 else 0), false)

/-- `json_error_position`: 0 for JSON that reads, else the place of the first error, counted in
characters from 1. -/
def jsonErrorPosition (args : List JsonArg) : Except Fault JsonArg :=
  match (args.headD (.null, false)).1 with
  | .null => pure (.null, false)
  | .blob b =>
    if looksLikeJsonb b then pure (.integer (if (JsonNode.decode? b).isSome then 0 else 1), false)
    else pure (position b, false)
  | d => pure (position (d.text?.getD []), false)
where
  position (b : Bytes) : Datum :=
    match readJsonText b with
    | .ok _ _ => .integer 0
    | .error place =>
      let upTo := (untilNul b).take place
      .integer ((upTo.filter fun c => c &&& 0xc0 != 0x80).length + 1)

/-- `json_patch`. -/
def jsonPatch (binary : Bool) (args : List JsonArg) : Except Fault JsonArg := do
  let some target ← jsonInput (args.headD (.null, false)).1 | return (.null, false)
  let some patch ← jsonInput (args.getD 1 (.null, false)).1 | return (.null, false)
  jsonResult binary (target.mergePatch jsonFuel patch)

/-- `json_array`: the values as a JSON array. -/
def jsonArray (binary : Bool) (args : List JsonArg) : Except Fault JsonArg := do
  let parts ← args.mapM jsonTextOf
  pure (builtResult binary ([91] ++ joinComma parts ++ [93]))

/-- `json_object`: labels and values as a JSON object, repeated labels kept. -/
def jsonObject (binary : Bool) (args : List JsonArg) : Except Fault JsonArg := do
  if args.length % 2 == 1 then
    throw (Fault.error "json_object() requires an even number of arguments")
  let pairs := pairArgs args
  if pairs.any fun ((k, _), _) => !(match k with
      | .text _ => true
      | _ => false) then
    throw (Fault.error "json_object() labels must be TEXT")
  let parts ← pairs.mapM fun ((k, _), v) => do
    let value ← jsonTextOf v
    pure (quoteJson ((k.text?).getD []) ++ [58] ++ value)
  pure (builtResult binary ([123] ++ joinComma parts ++ [125]))

/-- The value of a JSON function, with whether it is marked as JSON. -/
def applyJsonTagged (f : JsonFn) (binary : Bool) (args : List JsonArg) : Except Fault JsonArg :=
  match f with
  | .json => jsonRemove binary (args.take 1)
  | .array => jsonArray binary args
  | .arrayLength => jsonArrayLength args
  | .errorPosition => jsonErrorPosition args
  | .extract => jsonExtract binary none args
  | .arrow => jsonExtract false (some true) args
  | .arrowValue => jsonExtract false (some false) args
  | .insert => jsonEdit binary "insert" JsonEdit.insert args
  | .replace => jsonEdit binary "replace" JsonEdit.replace args
  | .set => jsonEdit binary "set" JsonEdit.set args
  | .remove => jsonRemove binary args
  | .object => jsonObject binary args
  | .patch => jsonPatch binary args
  | .quote => do
    let t ← jsonTextOf (args.headD (.null, false))
    pure (.text t, true)
  | .type => jsonTypeOf args
  | .valid => jsonValid args
  | .pretty => pure (.null, false)

/-- The value of a JSON function over values no JSON function made. -/
def applyJson (f : JsonFn) (binary : Bool) (args : List Datum) : Except Fault Datum :=
  (applyJsonTagged f binary (args.map (·, false))).map (·.1)

/-- `json_group_array` over the values of a group's rows. -/
def jsonGroupArray (binary : Bool) (values : List JsonArg) : Except Fault JsonArg :=
  if values.isEmpty then pure (Datum.ofString "[]", true)
  else do
    let parts ← values.mapM jsonTextOf
    pure (builtResult binary ([91] ++ joinComma parts ++ [93]))

/-- `json_group_object` over the labels and values of a group's rows; a null label writes no
label at all. -/
def jsonGroupObject (binary : Bool) (rows : List (JsonArg × JsonArg)) : Except Fault JsonArg :=
  if rows.isEmpty then pure (Datum.ofString "{}", true)
  else do
    let parts ← rows.mapM fun ((k, _), v) => do
      let value ← jsonTextOf v
      let label := match k.text? with
        | some t => quoteJson (untilNul t)
        | none => []
      pure (label ++ [58] ++ value)
    pure (builtResult binary ([123] ++ joinComma parts ++ [125]))

end RecordMap.Sql
