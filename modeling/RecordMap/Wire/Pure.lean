import RecordMap.Wire.Expr
import RecordMap.Schema.Text
import RecordMap.Schema.Catalog
import RecordMap.Database.Row

/-!
# Requests that need no database

Each operation decodes its arguments, calls the library, and encodes the result as `ok` or
an error object. The structural texts of declarations and mappings are written here, since
they are part of these answers: `ColumnDef { … }`, `TableDef { … }` and `TableMapping { …, .. }`
with only the fields that the format shows.
-/

namespace RecordMap.Wire

open RecordMap.Numeral RecordMap.Text

def okJson (j : Json) : Json := .obj [("ok", j)]

/-- An optional text as JSON. -/
def optStr : Option String → Json
  | some s => .str s
  | none => .null

/-- An optional natural as JSON. -/
def optNat : Option Nat → Json
  | some n => .ofNat n
  | none => .null

/-! ## Mappings and declarations as answers -/

/-- An index membership as an answer object. -/
def encodeIndex (a : IndexAttr) : Json :=
  .obj [("name", optStr a.name), ("order", .ofInt a.order), ("unique", .bool a.unique)]

/-- A column declaration of a statement, or null when it has none. -/
def declJson (c : Column) (ticks : Bool) : Json :=
  match c.sqlDecl ticks with
  | .ok s => .str s
  | .error _ => .null

/-- A mapped column as an answer object. -/
def encodeColumn (c : Column) : Json :=
  .obj [("property", .str c.property), ("name", .str c.name), ("type", .str c.dataType.name),
    ("nullable", .bool c.nullable), ("collation", optStr c.collation),
    ("max_length", optNat c.maxLength), ("pk", .bool c.isPk), ("auto_inc", .bool c.isAutoInc),
    ("auto_guid", .bool c.isAutoGuid), ("indices", .arr (c.indices.map encodeIndex)),
    ("decl", declJson c true), ("decl_text", declJson c false)]

/-- A mapping as an answer object. -/
def encodeMapping (m : Mapping) : List (String × Json) :=
  [("table", .str m.tableName), ("without_rowid", .bool m.withoutRowid),
    ("pk", optStr (m.pkColumn.map (·.name))), ("has_auto_inc_pk", .bool m.hasAutoIncPk),
    ("get_by_pk_sql", .str m.getByPkSql),
    ("insert_columns", .arr (m.insertColumns.map (Json.str ·.name))),
    ("insert_or_replace_columns", .arr (m.replaceColumns.map (Json.str ·.name))),
    ("insert_sql", .str (m.insertSql .plain)), ("replace_sql", .str (m.insertSql .replace)),
    ("columns", .arr (m.columns.map encodeColumn))]

/-- A constraint in the spec's own encoding. -/
def encodeConstraint : Constraint → Json
  | .primaryKey => .str "pk"
  | .autoIncrement => .str "auto"
  | .notNull => .str "not_null"
  | .indexed a => .obj [("index", .arr [optStr a.name, .ofInt a.order, .bool a.unique])]
  | .collate n => .obj [("collate", .str n)]
  | .maxLength n => .obj [("max_length", .ofNat n)]
  | .ignore => .str "ignore"

/-- A column declaration as an answer object. -/
def encodeColumnDef (c : ColumnDef) : Json :=
  let has (k : ConstraintKind) := Json.bool (c.has k)
  .obj [("property", .str c.property), ("name", .str c.name),
    ("constraints", .arr (c.constraints.map encodeConstraint)),
    ("collation", optStr c.collation), ("max_len", optNat c.maxLen),
    ("indices", .arr (c.indices.map fun a => .arr [optStr a.name, .ofInt a.order, .bool a.unique])),
    ("has", .obj [("pk", has .primaryKey), ("auto", has .autoIncrement),
      ("not_null", has .notNull), ("indexed", has .indexed), ("collate", has .collate),
      ("max_length", has .maxLength), ("ignore", has .ignore)]),
    ("debug", .str c.debugText)]

/-! ## The operations -/

/-- The flags member of a request, none when absent. -/
def decodeFlags (j : Json) : Decoded CreateFlags :=
  match optField j "flags" with
  | some f => do pure ⟨← asNat f⟩
  | none => pure CreateFlags.none

/-- A mapping as an answer, with the lookups and the structural text a request asks for. -/
def mappingAnswer (m : Mapping) (req : Json) : Decoded Json := do
  let lookups ← match optField req "lookups" with
    | some l => do
      let items ← (← asArr l).mapM fun n => do
        let n ← asStr n
        pure (Json.obj [("find_column", optStr ((m.findColumn n).map (·.property))),
          ("by_property", optStr ((m.findByProperty n).map (·.name)))])
      pure [("lookups", Json.arr items)]
    | none => pure []
  let debug := match optField req "debug" with
    | some (.bool true) => [("debug", Json.str m.debugText), ("record_type_matches", .bool true)]
    | _ => []
  pure (.obj (encodeMapping m ++ lookups ++ debug))

/-- `mapping`: the mapping of slot 0's record type under the flags, with lookups. -/
def mappingOp (req : Json) : Decoded Json := do
  let t ← decodeTable (← field req "table")
  let flags ← decodeFlags req
  let m ← liftOutcome (Mapping.build (slotTypeName 0) t flags)
  pure (okJson (← mappingAnswer m req))

/-- `compile`: an expression compiled against slot 0's mapping, or an ordering resolved. -/
def compileOp (req : Json) : Decoded Json := do
  let t ← decodeTable (← field req "table")
  let scope : Scope := { tables := [t] }
  let flags ← decodeFlags req
  let (e, _) ← (decodeExpr scope 256 (← field req "expr")).run 0
  let m ← liftOutcome (Mapping.build (slotTypeName 0) t flags)
  if (req.get? "mode" >>= Json.str?) == some "ordering" then
    let c ← liftOutcome (resolveOrdering m e)
    pure (okJson (.obj [("column", .str c)]))
  else
    let (c, args) ← liftOutcome (compile m e [])
    pure (okJson (.obj [("sql", .str c.sql), ("args", .arr (args.map encodeHost)),
      ("value", match c.value with
        | some h => encodeHost h
        | none => .null),
      ("data_type", optStr (c.dataType.map DataType.name))]))

/-- `coerce`: a value converted to a type. -/
def coerceOp (req : Json) : Decoded Json := do
  let v ← decodeValue [] (← field req "value")
  let t := DataType.ofName (← fieldStr req "to")
  pure (okJson (encodeValue (← liftFault (v.coerce t))))

/-- `decimal`: a decimal from a double or from its parts. -/
def decimalOp (req : Json) : Decoded Json := do
  let d ← match req.get? "f64" with
    | some x => liftFault (Value.decimalOfFloat (← decodeFloat ((x.get? "float").getD x)))
    | none => do
      match (← decodeValue [] (.obj [("decimal", ← field req "digits"),
          ("scale", ← field req "scale")])) with
      | .decimal d => pure d
      | _ => malformed "invalid decimal"
  pure (okJson (.obj [("digits", .str (toString d.digits)), ("scale", .ofInt d.scale),
    ("text", .str d.render), ("f64", .str (FloatStyle.plain.render d.toFloat))]))

/-- `field`: a field type's data type, and a value stored into it and read back. -/
def fieldOp (req : Json) : Decoded Json := do
  let ty ← fieldStr req "type"
  let f ← match FieldType.ofName? ty with
    | some f => pure f
    | none => malformed ("unknown field type " ++ ty)
  let base := [("data_type", Json.str f.dataType.name), ("optional", .bool f.optional)]
  match req.get? "value" with
  | some v =>
    let v ← decodeValue [] v
    let stored ← liftFault (f.accept v)
    pure (okJson (.obj (base ++ [("value", encodeValue stored)])))
  | none => pure (okJson (.obj base))

/-- `sql_type`: a type's declaration and classification. -/
def sqlTypeOp (req : Json) : Decoded Json := do
  let t := DataType.ofName (← fieldStr req "type")
  let ticks ← asBool (← field req "ticks")
  let maxLength ← match optField req "max_length" with
    | some n => some <$> asNat n
    | none => pure none
  pure (okJson (.obj [("sql", optStr (t.sqlType ticks maxLength)), ("is_integer", .bool t.isInteger),
    ("is_text", .bool t.isText), ("is_supported", .bool t.isSupported), ("name", .str t.name)]))

/-- `display`: a value's display text and kind. -/
def displayOp (req : Json) : Decoded Json := do
  let v ← decodeValue [] (← field req "value")
  pure (okJson (.obj [("text", .str v.displayText), ("type_name", .str v.typeName),
    ("is_null", .bool v.isNull), ("is_text", .bool v.isText)]))

/-- `quote`: an identifier quoted. -/
def quoteOp (req : Json) : Decoded Json := do
  pure (okJson (.str (quoteIdentifier (← fieldStr req "name"))))

/-- The table slots of a request. -/
def decodeTables (req : Json) : Decoded (List TableDef) :=
  match optField req "tables" with
  | some ts => do (← asArr ts).mapM decodeTable
  | none => pure []

/-- `host`: a host value's kind, members, structural text and equality. -/
def hostOp (req : Json) : Decoded Json := do
  let scope : Scope := { tables := ← decodeTables req }
  let (h, next) ← (decodeHost scope 64 (← field req "value")).run 0
  let members ← match optField req "members" with
    | some ms => do
      let names ← (← asArr ms).mapM asStr
      match h with
      | .object .. => pure [("members", Json.arr (names.map fun n =>
          match h.member? n with
          | some v => encodeHost v
          | none => .null))]
      | _ => pure []
    | none => pure []
  let debug := match optField req "debug" with
    | some (.bool true) => [("debug", Json.str h.debugText),
        ("as_scalar", match h.asScalar? with
          | some v => encodeValue v
          | none => .null), ("clone_equal", .bool true)]
    | _ => []
  let compare ← match req.get? "compare" with
    | some c => do
      let (other, _) ← (decodeHost scope 64 c).run next
      pure [("equal", Json.bool (other.same h))]
    | none => pure []
  pure (okJson (.obj ([("kind", .str h.kind), ("is_null", .bool h.isNull),
    ("value", encodeHost h)] ++ members ++ debug ++ compare)))

/-- `describe`: slot 0's table declaration. -/
def describeOp (req : Json) : Decoded Json := do
  let t ← decodeTable (← field req "table")
  pure (okJson (.obj [("name", .str t.name), ("without_rowid", .bool t.withoutRowid),
    ("debug", .str t.debugText), ("columns", .arr (t.columns.map encodeColumnDef))]))

/-- The state of a catalog request: the catalog and the last identity answered per slot. -/
structure CatalogRun where
  catalog : Catalog := {}
  last : List (Nat × Nat) := []

/-- One step against a catalog. -/
def catalogStep (tables : List TableDef) (run : CatalogRun) (step : Json) :
    Decoded (Json × CatalogRun) := do
  let op ← fieldStr step "op"
  let slot : Decoded Nat := match optField step "t" with
    | some t => asNat t
    | none => pure 0
  match op with
  | "get_mapping" =>
    let k ← slot
    let t ← match tables[k]? with
      | some t => pure t
      | none => malformed "no such table slot"
    let flags ← decodeFlags step
    match run.catalog.getMapping k (slotTypeName k) t flags with
    | .ok (e, c) =>
      let same := match run.last.lookup k with
        | some prev => Json.bool (prev == e.id)
        | none => .null
      let last := (k, e.id) :: run.last.filter (·.1 != k)
      pure (okJson (.obj (encodeMapping e.mapping ++ [("same_as_previous", same)])),
        { catalog := c, last })
    | .error err => pure (encodeError err, run)
  | "get" =>
    let k ← slot
    pure (okJson (optStr ((run.catalog.get? k).map (·.mapping.tableName))), run)
  | "len" => pure (okJson (.ofNat run.catalog.size), run)
  | "is_empty" => pure (okJson (.bool (run.catalog.size == 0)), run)
  | "clear" => pure (okJson .null, { run with catalog := run.catalog.clear })
  | "mappings" =>
    let names := (run.catalog.entries.map fun e => e.mapping.typeName ++ " " ++ e.mapping.tableName)
    pure (okJson (.arr ((names.mergeSort Catalog.textLe).map Json.str)), run)
  | "debug" =>
    pure (okJson (.str ("MappingCatalog \x7b mappings: " ++ toString run.catalog.size ++ " \x7d")), run)
  | _ => malformed ("unknown catalog step " ++ op)

/-- `catalog`: steps against one fresh catalog. -/
def catalogOp (req : Json) : Decoded Json := do
  let tables ← decodeTables req
  let steps ← asArr (← field req "steps")
  let (answers, _) ← steps.foldlM (fun (acc : List Json × CatalogRun) step => do
    let (a, run) ← catalogStep tables acc.2 step
    pure (acc.1 ++ [a], run)) ([], {})
  pure (okJson (.arr answers))

/-- An outcome as an answer object. -/
def outcomeJson {α : Type} (enc : α → Json) : Outcome α → Json
  | .ok a => okJson (enc a)
  | .error e => encodeError e

/-- One getter probe of a row. -/
def rowProbe (r : Row) (probe : Json) : Decoded Json := do
  let kind ← fieldStr probe "get"
  let index : Decoded Nat := do asNat (← field probe "index")
  match kind with
  | "int" => pure (outcomeJson Json.ofInt (r.getInt (← index)))
  | "float" => pure (outcomeJson (fun x => encodeValue (.float x)) (r.getFloat (← index)))
  | "text" => pure (outcomeJson Json.str (r.getText (← index)))
  | "blob" => pure (outcomeJson (fun b => encodeValue (.blob b)) (r.getBlob (← index)))
  | "is_null" => pure (okJson (.bool (r.isNull (← index))))
  | "get" => pure (okJson (match r.get? (← index) with
      | some v => encodeValue v
      | none => .str "<none>"))
  | "by_name" => pure (okJson (match r.getByName? (← fieldStr probe "name") with
      | some v => encodeValue v
      | none => .str "<none>"))
  | "count" => pure (okJson (.ofNat r.count))
  | _ => malformed ("unknown probe " ++ kind)

/-- The probes of a row. -/
def rowProbes (r : Row) (req : Json) : Decoded (List Json) :=
  match optField req "probe" with
  | some ps => do (← asArr ps).mapM (rowProbe r)
  | none => pure []

/-- `row`: getters on a row built from columns and values. -/
def rowOp (req : Json) : Decoded Json := do
  let columns ← (← asArr (← field req "columns")).mapM asStr
  let values ← (← asArr (← field req "values")).mapM (decodeValue [])
  let r : Row := ⟨columns, values⟩
  pure (okJson (.obj [("columns", .arr (columns.map Json.str)),
    ("probe", .arr (← rowProbes r req))]))

end RecordMap.Wire
