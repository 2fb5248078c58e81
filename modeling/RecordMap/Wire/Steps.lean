import RecordMap.Wire.Pure
import RecordMap.Database.Open
import RecordMap.Database.Records
import RecordMap.Database.Tables
import RecordMap.Database.TableQuery

/-!
# Steps of a session

A session runs steps on its connections. Each step names an operation of the library, decodes
its arguments (records of a table slot, values, expressions), calls the operation, and encodes
what it returns. A step that the library refuses answers with the library's error; a step that
is not well formed is malformed.

This module holds the steps that stand on their own; a transaction running nested steps is put
together with them where sessions are run.
-/

namespace RecordMap.Wire

open RecordMap.Numeral

/-- What every step of a session sees: the table slots and how its connections are opened. -/
structure Setting where
  tables : List TableDef
  builder : Builder
  deriving Inhabited

/-- What steps leave for later steps besides the world: the names of the savepoints made by
`savepoint` steps, by number. -/
structure Marks where
  savepoints : Array String := #[]
  deriving Inhabited

/-- A step's program: it runs on the world, keeps marks, and may fail. -/
abbrev StepM := StateT Marks (ExceptT Failure Db)

/-- A decoding result as a step's. -/
def decoded {α : Type} (d : Decoded α) : StepM α :=
  match d with
  | .ok a => pure a
  | .error f => throw f

/-- A library program as a step's, its failure being the step's. -/
def library {α : Type} (p : Db α) : StepM α := do
  match ← (liftM (Db.attempt p) : StepM (Outcome α)) with
  | .ok a => pure a
  | .error e => throw (.library e)

/-- The world a step runs on. -/
def currentWorld : StepM World := liftM (get : Db World)

/-- The record type of a step's table slot `t` (slot 0 when absent). -/
def recordTypeOf (s : Setting) (j : Json) : Decoded RecordType := do
  let t ← match optField j "t" with
    | some v => asNat v
    | none => pure 0
  match s.tables[t]? with
  | some tab => pure ⟨t, slotTypeName t, tab⟩
  | none => malformed ("no table in slot " ++ toString t)

/-- What decoding host values and expressions needs. -/
def scopeOf (s : Setting) : StepM Scope := do
  pure { tables := s.tables, generated := (← currentWorld).generated }

/-- Decodes a value. -/
def valueArg (j : Json) : StepM Value := do
  decoded (decodeValue (← currentWorld).generated j)

/-- Decodes a record of a record type. -/
def recordArg (rt : RecordType) (j : Json) : StepM (List Value) := do
  decoded (decodeRecord (← currentWorld).generated rt.table j)

/-- Decodes the positional values of `params` (none when absent). -/
def paramsArg (j : Json) : StepM (List Value) := do
  match optField j "params" with
  | some ps => (← decoded (asArr ps)).mapM valueArg
  | none => pure []

/-- Decodes an expression. -/
def exprArg (s : Setting) (j : Json) : StepM Expr := do
  let (e, _) ← decoded ((decodeExpr (← scopeOf s) 256 j).run 0)
  pure e

/-- A boolean member, false when absent. -/
def flagArg (j : Json) (name : String) : StepM Bool :=
  match optField j name with
  | some b => decoded (asBool b)
  | none => pure false

/-- A natural member with a default. -/
def natArg (j : Json) (name : String) (default : Nat) : StepM Nat :=
  match optField j name with
  | some n => decoded (asNat n)
  | none => pure default

/-- The creation flags a step gives, if any. -/
def flagsArg (j : Json) : StepM (Option CreateFlags) :=
  match optField j "flags" with
  | some f => do pure (some ⟨← decoded (asNat f)⟩)
  | none => pure none

/-- A pass of a deferred query as an answer: records and errors. -/
def passJson (p : Pass) : Json :=
  .arr (p.items.map fun
    | .ok r => encodeRecord r
    | .error e => encodeError e)

/-- An untyped row's values as an answer. -/
def rowJson (r : Row) : Json := .arr (r.values.map encodeValue)

/-- Untyped rows as an answer: the first row's column names, and every row's values. -/
def rowsJson (rows : List Row) : List (String × Json) :=
  [("columns", .arr (((rows.head?.map (·.columns)).getD []).map Json.str)),
   ("rows", .arr (rows.map rowJson))]

/-- A query state as an answer. -/
def stateJson (q : QueryState) : Json :=
  .obj [("has_predicate", .bool q.predicate.isSome),
    ("orderings", match q.orderings with
      | some os => .arr (os.map fun o => .arr [.str o.column, .bool o.ascending])
      | none => .null),
    ("limit", optNat q.limit), ("offset", optNat q.offset), ("deferred", .bool q.deferred)]

/-- A column description as an answer. -/
def columnInfoJson (c : ColumnInfo) : Json :=
  .obj [("name", .str c.name), ("type", .str c.declaredType), ("not_null", .bool c.notNull),
    ("default", optStr c.defaultValue), ("pk", .bool c.primaryKey)]

/-- The largest count a `take` or `skip` accepts. -/
def maxU64 : Nat := Nat.pow 2 64 - 1

/-- A count of a query operation. -/
def countArg (j : Json) : StepM Nat := do
  let n ← decoded (asNat j)
  if n > maxU64 then decoded (malformed "count out of range") else pure n

/-- Applies query operations in order. -/
def applyOps (s : Setting) (c : Nat) : Nat → TableQuery → List Json → StepM TableQuery
  | _, q, [] => pure q
  | 0, _, _ => decoded (malformed "query nested too deeply")
  | fuel + 1, q, op :: rest => do
    let q ← match op.obj? with
      | some [(name, arg)] =>
        match name with
        | "filter" => do pure (q.filter (← exprArg s arg))
        | "order_by" => do library (Db.ofOutcome (q.addOrdering (← exprArg s arg) true))
        | "order_by_desc" => do library (Db.ofOutcome (q.addOrdering (← exprArg s arg) false))
        | "then_by" => do library (Db.ofOutcome (q.addOrdering (← exprArg s arg) true))
        | "then_by_desc" => do library (Db.ofOutcome (q.addOrdering (← exprArg s arg) false))
        | "take" => do pure (q.take (← countArg arg))
        | "skip" => do pure (q.skip (← countArg arg))
        | "next_take" => pure q.nextTake
        | "deferred" => pure q.deferred
        | "join" => do
          let rt ← decoded (recordTypeOf s arg)
          let inner ← library (Db.table c rt)
          let innerOps ← match optField arg "ops" with
            | some o => decoded (asArr o)
            | none => pure []
          let inner ← applyOps s c fuel inner innerOps
          let outerKey ← exprArg s (← decoded (field arg "outer"))
          let innerKey ← exprArg s (← decoded (field arg "inner"))
          pure (q.join inner outerKey innerKey)
        | other => decoded (malformed ("unknown query op " ++ other))
      | _ => decoded (malformed "a query op is a one-member object")
    applyOps s c fuel q rest

/-- A record's values at positions, null past the end. -/
def project (positions : List Nat) (record : List Value) : Json :=
  .arr (positions.map fun i => encodeValue (record.getD i .null))

/-- Runs a query's terminal. -/
def terminalStep (s : Setting) (c : Nat) (q : TableQuery) (j : Json) : StepM Json := do
  let name := (j.get? "terminal" >>= Json.str?).getD "to_list"
  let recordsJson (rs : List (List Value)) : Json := .arr (rs.map encodeRecord)
  let orNull (r : Option (List Value)) : Json := match r with
    | some r => encodeRecord r
    | none => .null
  match name with
  | "generate" =>
    let list := (j.get? "select" >>= Json.str?).getD "*"
    let cmd ← library (Db.ofOutcome (q.generate list))
    pure (.obj [("sql", .str cmd.text), ("args", .arr (cmd.bindings.map (encodeHost ·.value)))])
  | "to_list" => do pure (recordsJson (← library (Db.toList c q)))
  | "rows" =>
    let passes ← natArg j "passes" 1
    let rows ← library (Db.rows c q)
    let ps ← library (rows.passes c (List.replicate passes maxU64))
    pure (.arr (ps.map passJson))
  | "count" => do pure (.ofInt (← library (Db.count c q)))
  | "count_where" => do
    let e ← exprArg s (← decoded (field j "expr"))
    pure (.ofInt (← library (Db.count c (q.filter e))))
  | "element_at" => do
    let i ← natArg j "index" 0
    pure (encodeRecord (← library (Db.elementAt c q i)))
  | "first" => do pure (encodeRecord (← library (Db.first c q)))
  | "first_or_default" => do pure (orNull (← library (Db.firstOrDefault c q)))
  | "first_where" => do
    let e ← exprArg s (← decoded (field j "expr"))
    pure (encodeRecord (← library (Db.first c (q.filter e))))
  | "first_or_default_where" => do
    let e ← exprArg s (← decoded (field j "expr"))
    pure (orNull (← library (Db.firstOrDefault c (q.filter e))))
  | "delete" => do pure (.ofNat (← library (Db.deleteMatching c q)))
  | "delete_where" => do
    let e ← exprArg s (← decoded (field j "expr"))
    pure (.ofNat (← library (Db.deleteMatching c (q.filter e))))
  | "state" => pure (stateJson q.state)
  | "debug" => pure (.obj [("table", .str q.mapping.tableName), ("debug", .str q.debugText)])
  | "descriptor" =>
    match q.state.join with
    | some (outer, inner, _, _) =>
      pure (.obj [("present", .bool true), ("inner_limit", optNat inner.limit),
        ("outer_limit", optNat outer.limit)])
    | none => pure (.obj [("present", .bool false), ("inner_limit", .null), ("outer_limit", .null)])
  | "select" =>
    let positions ← (← decoded (asArr (← decoded (field j "project")))).mapM fun p => decoded (asNat p)
    match (j.get? "then" >>= Json.str?).getD "to_list" with
    | "to_list" => do pure (.arr ((← library (Db.toList c q)).map (project positions)))
    | "first" => do pure (project positions (← library (Db.first c q)))
    | "first_or_default" => do
      pure (match ← library (Db.firstOrDefault c q) with
        | some r => project positions r
        | none => .null)
    | "count" => do pure (.ofInt (← library (Db.count c q)))
    | other => decoded (malformed ("unknown select terminal " ++ other))
  | other => decoded (malformed ("unknown terminal " ++ other))

/-- The command a `command` step builds from its bindings. -/
def commandArg (s : Setting) (j : Json) : StepM Command := do
  let sql ← decoded (fieldStr j "sql")
  let binds ← match optField j "bind" with
    | some b => decoded (asArr b)
    | none => pure []
  binds.foldlM (fun (cmd : Command) b => do
    if let some h := b.get? "host" then
      let (host, _) ← decoded ((decodeHost (← scopeOf s) 64 h).run 0)
      pure (cmd.bindHost host)
    else
      let v ← valueArg (← decoded (field b "value"))
      match b.get? "name" >>= Json.str? with
      | some n => pure (cmd.bindNamed n v)
      | none => pure (cmd.bind v)) ⟨sql, []⟩

/-- The field type a step names in `type`. -/
def typeArg (j : Json) : StepM FieldType := do
  let name ← decoded (fieldStr j "type")
  match FieldType.ofName? name with
  | some f => pure f
  | none => decoded (malformed ("unknown type " ++ name))

/-- The savepoint name a step names: the one made by savepoint step `sp`, or `token`. -/
def savepointArg (j : Json) : StepM String := do
  match optField j "sp" with
  | some i =>
    let i ← decoded (asNat i)
    match (← get).savepoints[i]? with
    | some t => pure t
    | none => decoded (malformed ("no savepoint " ++ toString i))
  | none => decoded (fieldStr j "token")

/-- The structural text of a connection. -/
def connectionDebug (k : Connection) : String :=
  "Connection \x7b path: " ++ Text.debugQuote k.path ++ ", open: " ++
    (if k.handle.isSome then "true" else "false") ++ ", transaction_depth: " ++ toString k.depth ++
    ", store_timestamps_as_ticks: " ++ (if k.ticks then "true" else "false") ++ ", .. \x7d"

/-- Runs one step that stands on its own on connection `c`. -/
def basicStep (s : Setting) (c : Nat) (op : String) (j : Json) : StepM Json := do
  match op with
  | "create_table" => do
    let rt ← decoded (recordTypeOf s j)
    let r ← match ← flagsArg j with
      | some f => library (Db.createTableWith c rt f)
      | none => library (Db.createTable c rt)
    pure (.str r.name)
  | "drop_table" => do pure (.ofNat (← library (Db.dropTable c (← decoded (recordTypeOf s j)))))
  | "mapping" => do
    let rt ← decoded (recordTypeOf s j)
    let m ← match ← flagsArg j with
      | some f => library (Db.mappingWith c rt f)
      | none => library (Db.mapping c rt)
    decoded (mappingAnswer m j)
  | "is_table_created" => do
    pure (.bool (← library (Db.isTableCreated c (← decoded (recordTypeOf s j)))))
  | "insert" | "insert_or_replace" => do
    let rt ← decoded (recordTypeOf s j)
    let mode : InsertMode :=
      if op == "insert_or_replace" || (j.get? "mode" >>= Json.str?) == some "replace" then .replace
      else .plain
    let record ← recordArg rt (← decoded (field j "rec"))
    let (record, out) ← library (Db.insertWith c rt mode record)
    match out with
    | .ok n => pure (.obj [("changed", .ofNat n), ("record", encodeRecord record)])
    | .error e => throw (.library e)
  | "insert_all" => do
    let rt ← decoded (recordTypeOf s j)
    let records ← (← decoded (asArr (← decoded (field j "recs")))).mapM (recordArg rt)
    let tx ← flagArg j "tx"
    let (records, out) ← library (Db.insertAll c rt records tx)
    let head := match out with
      | .ok n => ("changed", Json.ofNat n)
      | .error e => ("failed", encodeError e)
    pure (.obj [head, ("records", .arr (records.map encodeRecord))])
  | "update" => do
    let rt ← decoded (recordTypeOf s j)
    let record ← recordArg rt (← decoded (field j "rec"))
    pure (.ofNat (← library (Db.update c rt record)))
  | "update_all" => do
    let rt ← decoded (recordTypeOf s j)
    let records ← (← decoded (asArr (← decoded (field j "recs")))).mapM (recordArg rt)
    let tx ← flagArg j "tx"
    pure (.ofNat (← library (Db.updateAll c rt records tx)))
  | "delete" => do
    let rt ← decoded (recordTypeOf s j)
    let record ← recordArg rt (← decoded (field j "rec"))
    pure (.ofNat (← library (Db.delete c rt record)))
  | "delete_by_key" => do
    let rt ← decoded (recordTypeOf s j)
    let key ← valueArg (← decoded (field j "key"))
    pure (.ofNat (← library (Db.deleteByKey c rt key)))
  | "delete_all" => do pure (.ofNat (← library (Db.deleteAll c (← decoded (recordTypeOf s j)))))
  | "find" => do
    let rt ← decoded (recordTypeOf s j)
    let key ← valueArg (← decoded (field j "key"))
    pure (match ← library (Db.find c rt key) with
      | some r => encodeRecord r
      | none => .null)
  | "get" => do
    let rt ← decoded (recordTypeOf s j)
    let key ← valueArg (← decoded (field j "key"))
    pure (encodeRecord (← library (Db.get c rt key)))
  | "query" => do
    let rt ← decoded (recordTypeOf s j)
    let q ← library (Db.table c rt)
    let ops ← match optField j "ops" with
      | some o => decoded (asArr o)
      | none => pure []
    let q ← applyOps s c 64 q ops
    terminalStep s c q j
  | "raw_query" => do
    let rt ← decoded (recordTypeOf s j)
    let sql ← decoded (fieldStr j "sql")
    let params ← paramsArg j
    pure (.arr ((← library (Db.query c rt sql params)).map encodeRecord))
  | "deferred_query" => do
    let rt ← decoded (recordTypeOf s j)
    let sql ← decoded (fieldStr j "sql")
    let params ← paramsArg j
    let passes ← natArg j "passes" 1
    let d ← library (Db.executeDeferred c rt ((Command.mk sql []).bindAll params))
    if ← flagArg j "debug" then
      let take ← natArg j "take" maxU64
      let first ← library (Db.runPass c d maxU64)
      let later ← (List.range (passes - 1)).mapM fun _ => library (Db.runPass c d take)
      pure (.obj [("passes", .arr ((first :: later).map passJson)),
        ("finished", .arr (later.map fun p => .bool p.finished)), ("debug", .str d.debugText)])
    else
      let ps ← (List.range passes).mapM fun _ => library (Db.runPass c d maxU64)
      pure (.arr (ps.map passJson))
  | "execute" => do
    let sql ← decoded (fieldStr j "sql")
    pure (.ofNat (← library (Db.execute c sql (← paramsArg j))))
  | "scalar" => do
    let sql ← decoded (fieldStr j "sql")
    let params ← paramsArg j
    let f ← typeArg j
    pure (encodeValue (← library (Db.executeScalar c ((Command.mk sql []).bindAll params) f)))
  | "query_rows" => do
    let sql ← decoded (fieldStr j "sql")
    let rows ← library (Db.queryRows c sql (← paramsArg j))
    let probe ← match optField j "probe", rows.head? with
      | some _, some r => do pure [("probe", Json.arr (← decoded (rowProbes r j)))]
      | some _, none => pure [("probe", Json.arr [])]
      | none, _ => pure []
    pure (.obj (rowsJson rows ++ probe))
  | "command" => do
    let cmd ← commandArg s j
    let mode := (j.get? "mode" >>= Json.str?).getD "non_query"
    if mode == "scalar" then
      let f ← typeArg j
      pure (encodeValue (← library (Db.executeScalar c cmd f)))
    else
      let b ← library (Db.prepare c cmd)
      let result ← if mode == "rows" then do
          let out ← library (Db.run c b)
          pure (Json.obj (rowsJson (out.rows.map fun row => ⟨b.prepared.columns, row.map readDynamic⟩)))
        else do
          let _ ← library (Db.run c b)
          pure (Json.ofNat (← library (Db.changes c)))
      let base := [("result", result), ("indexes", .arr (b.command.bindings.map (Json.ofNat ·.index)))]
      let debug := if ← flagArg j "debug" then
          [("display", Json.str b.command.display), ("debug", .str b.command.debugText)]
        else []
      pure (.obj (base ++ debug))
  | "create_index" => do
    let name ← decoded (fieldStr j "name")
    let table ← decoded (fieldStr j "table")
    let columns ← (← decoded (asArr (← decoded (field j "columns")))).mapM fun c => decoded (asStr c)
    let unique ← flagArg j "unique"
    pure (.ofNat (← library (Db.createIndex c name table columns unique)))
  | "table_info" => do
    let name ← decoded (fieldStr j "name")
    pure (.arr ((← library (Db.tableInfo c name)).map columnInfoJson))
  | "begin" => do
    library (Db.beginTransaction c)
    pure .null
  | "commit" => do
    library (Db.commit c)
    pure .null
  | "rollback" => do
    library (Db.rollback c)
    pure .null
  | "savepoint" => do
    let token ← library (Db.saveTransactionPoint c)
    let marks ← get
    set { marks with savepoints := marks.savepoints.push token }
    pure (.obj [("sp", .ofNat marks.savepoints.size), ("sp_depth", optNat (Db.savepointDepth? token))])
  | "rollback_to" => do
    library (Db.rollbackTo c (← savepointArg j))
    pure .null
  | "release" => do
    library (Db.release c (← savepointArg j))
    pure .null
  | "depth" => do
    let d ← library (Db.depth c)
    pure (.obj [("depth", .ofNat d), ("in_tx", .bool (d > 0))])
  | "changes" => do pure (.ofNat (← library (Db.changes c)))
  | "last_insert_rowid" => do pure (.ofInt (← library (Db.lastInsertRowid c)))
  | "is_open" => do pure (.bool (← library (Db.isOpen c)))
  | "info" => do
    let k ← library (Db.connection c)
    let base := [("path", Json.str k.path), ("ticks", .bool k.ticks), ("is_open", .bool k.handle.isSome),
      ("busy_timeout_ms", .ofNat k.busyTimeout)]
    let debug := if ← flagArg j "debug" then
        [("create_flags", Json.str ("CreateFlags(" ++ toString k.createFlags.bits ++ ")")),
         ("debug", .str (connectionDebug k))]
      else []
    pure (.obj (base ++ debug))
  | "set_busy_timeout" => do
    let ms ← natArg j "ms" 0
    library (Db.setBusyTimeout c ms)
    pure (.ofNat (← library (Db.connection c)).busyTimeout)
  | "table_mappings" => do
    pure (.arr ((← library (Db.connection c)).catalog.tableNames.map Json.str))
  | other => decoded (malformed ("unknown step " ++ other))

end RecordMap.Wire
