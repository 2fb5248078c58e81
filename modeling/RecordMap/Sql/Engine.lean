import RecordMap.Sql.Pragma
import RecordMap.Sql.Parse.Statement

/-!
# Connections and transactions

An `Engine` holds the committed content of each database and the state of each connection
(`Handle`) to them. A statement is prepared against what its connection sees, and then run;
when the schema has changed in between, it is compiled again first.

* A connection outside a transaction makes each statement its own: a write is committed as soon
  as it has run. `begin` or a first `savepoint` opens a transaction, whose writes go to the
  connection's own copy of the content, made at its first write, until `commit` or `release` of
  the first savepoint publishes them, or `rollback` drops them. A savepoint remembers the copy as
  it was, and `rollback to` returns to it, keeping the savepoint.
* Connections to one file contend for its locks. Reading needs a shared lock, which a pending or
  exclusive lock of another connection refuses; writing needs the reserved lock, which only one
  connection may hold; publishing needs the exclusive lock, which any other lock refuses, and
  the connection that asked then holds the pending lock. A refused lock is `database is locked`;
  a statement of its own then leaves nothing behind.
* Connections to one shared cache contend for tables instead: one connection at a time may write,
  and a table one connection reads or writes in a transaction may not be written or read by
  another. A refusal is `database table is locked`.
* A failed `insert`, `update` or `delete` leaves nothing behind and sets the change count to 0,
  unless its conflict resolution was `fail`: then the rows it wrote before failing stay, and
  count. A `rollback` resolution also ends the transaction. The rowid of the last row inserted
  stays what the statement last set it to.

Running a statement is an `EStateM` program over the engine: when it fails, the locks it took
are still held, which is what a transaction that goes on after a failed statement keeps.
-/

namespace RecordMap.Sql

/-- How the connections to a database meet. -/
inductive Sharing where
  /-- Each connection has a database of its own. -/
  | alone
  /-- The connections share a file and its locks. -/
  | files
  /-- The connections share one cache, locking tables. -/
  | cache
  deriving Repr, DecidableEq, Inhabited

/-- The lock a connection holds on a database file, weakest first. -/
inductive Lock where
  | none
  | shared
  | reserved
  | pending
  | exclusive
  deriving Repr, DecidableEq, Inhabited

/-- The strength of a lock. -/
def Lock.rank : Lock → Nat
  | .none => 0
  | .shared => 1
  | .reserved => 2
  | .pending => 3
  | .exclusive => 4

/-- A savepoint: its name, the connection's copy of the content when it was made (none when
nothing had been written), and whether making it opened the transaction. -/
structure Savepoint where
  name : String
  snapshot : Option Store
  begins : Bool
  /-- The violations of deferred foreign keys counted when it was made. -/
  deferred : Int := 0
  deriving Inhabited

/-- The default time a busy database is waited for, in milliseconds. -/
def defaultTimeout : Nat := 100

/-- What the engine keeps for one connection. -/
structure Handle where
  database : Nat
  autocommit : Bool := true
  /-- The content as this connection's transaction has written it. -/
  work : Option Store := none
  /-- The savepoints, newest first. -/
  savepoints : List Savepoint := []
  lock : Lock := .none
  /-- The tables read and written in the transaction, under a shared cache. -/
  reads : List String := []
  writes : List String := []
  /-- Whether the connection holds the one write transaction of a shared cache. -/
  writer : Bool := false
  changes : Nat := 0
  totalChanges : Nat := 0
  lastRowid : Int := 0
  queryOnly : Bool := false
  readOnly : Bool := false
  busyTimeout : Nat := defaultTimeout
  foreignKeys : Bool := true
  /-- The violations of deferred foreign keys the transaction has counted. -/
  deferredViolations : Int := 0
  /-- Whether the connection is still open. -/
  live : Bool := true
  deriving Inhabited

/-- The committed databases and the connections to them. -/
structure Engine where
  sharing : Sharing
  stores : Array Store
  handles : Array Handle
  deriving Inhabited

/-- What a compiled `pragma` does. -/
inductive PragmaPlan where
  | tableInfo (table : String) (extended : Bool)
  | indexList (table : String)
  | indexInfo (index : String) (extended : Bool)
  | foreignKeyList (table : String)
  | foreignKeyCheck (table : Option String)
  /-- Reads a setting. -/
  | read (name : String)
  /-- Changes a setting to the value of an argument. -/
  | set (name : String) (arg : String)
  deriving Inhabited

/-- A compiled statement, ready to run. -/
inductive Plan where
  /-- Text with no statement in it. -/
  | empty
  /-- A statement that does nothing, such as an unknown pragma. -/
  | nothing
  | query (p : QueryPlan)
  | write (p : WritePlan)
  | schema (c : SchemaChange)
  /-- Makes a table and fills it with the rows of a query. -/
  | createTableAs (c : SchemaChange) (table : String) (q : QueryPlan)
  | pragma (p : PragmaPlan)
  | begin (mode : BeginMode)
  | commit
  | rollback
  | rollbackTo (name : String)
  | savepoint (name : String)
  | release (name : String)
  deriving Inhabited

/-- A prepared statement: its text (up to the end of its first statement), the names of its
parameters by number (none for a plain `?`), the statement, its plan, its result column names,
and the schema version it was compiled against. -/
structure Prepared where
  text : String
  params : List (Option String)
  statement : Option Statement
  plan : Plan
  columns : List String
  schema : Nat
  deriving Inhabited

/-- A program over the engine that may fail, keeping the state it reached. -/
abbrev Step := EStateM Fault Engine

/-- The fuel each evaluation of a statement is given. -/
def runFuel : Nat := 100000

namespace Engine

def handle (e : Engine) (i : Nat) : Handle := e.handles.getD i default

/-- The content a connection sees: its transaction's copy, else what is committed. -/
def view (e : Engine) (i : Nat) : Store :=
  let h := e.handle i
  h.work.getD (e.stores.getD h.database Store.empty)

/-- The other connections to the database of a connection. -/
def others (e : Engine) (i : Nat) : List Handle :=
  let db := (e.handle i).database
  (e.handles.toList.zipIdx.filter fun (h, j) => j != i && h.live && h.database == db).map (·.1)

/-- What the functions of a statement read about its connection. -/
def env (e : Engine) (i : Nat) : CallEnv :=
  let h := e.handle i
  { changes := h.changes, totalChanges := h.totalChanges, lastRowid := h.lastRowid }

/-- The engine with a new connection to a database, and the connection's number. -/
def connect (e : Engine) (database : Nat) (readOnly : Bool) : Engine × Nat :=
  ({ e with handles := e.handles.push { database, readOnly } }, e.handles.size)

/-- The engine with the busy timeout of a connection changed. -/
def setBusyTimeout (e : Engine) (i : Nat) (ms : Nat) : Engine :=
  { e with handles := e.handles.modify i fun h => { h with busyTimeout := ms } }

end Engine

/-! ## Preparing -/

/-- The settings a `pragma` reads, with the column name it gives. -/
def pragmaSettings : List (String × String) :=
  [("query_only", "query_only"), ("busy_timeout", "timeout"), ("user_version", "user_version"),
   ("schema_version", "schema_version"), ("encoding", "encoding"), ("page_size", "page_size"),
   ("foreign_keys", "foreign_keys"), ("integrity_check", "integrity_check"),
   ("quick_check", "quick_check"), ("page_count", "page_count"),
   ("freelist_count", "freelist_count"), ("application_id", "application_id"),
   ("auto_vacuum", "auto_vacuum"), ("cache_size", "cache_size"),
   ("recursive_triggers", "recursive_triggers"), ("synchronous", "synchronous"),
   ("journal_mode", "journal_mode"), ("temp_store", "temp_store"),
   ("locking_mode", "locking_mode"), ("secure_delete", "secure_delete"),
   ("case_sensitive_like", "case_sensitive_like")]

/-- Compiles a `pragma`: its plan and result column names. -/
def compilePragma (name : String) (arg : Option String) : Plan × List String :=
  let n := name.toLower
  match n, arg with
  | "table_info", some a => (.pragma (.tableInfo a false), tableInfoNames false)
  | "table_xinfo", some a => (.pragma (.tableInfo a true), tableInfoNames true)
  | "index_list", some a => (.pragma (.indexList a), indexListNames)
  | "index_info", some a => (.pragma (.indexInfo a false), indexInfoNames false)
  | "index_xinfo", some a => (.pragma (.indexInfo a true), indexInfoNames true)
  | "foreign_key_list", some a => (.pragma (.foreignKeyList a), foreignKeyListNames)
  | "foreign_key_check", a => (.pragma (.foreignKeyCheck a), foreignKeyCheckNames)
  | "table_info", none | "table_xinfo", none | "index_list", none | "index_info", none
  | "index_xinfo", none | "foreign_key_list", none => (.nothing, [])
  | _, none =>
    match pragmaSettings.find? (·.1 == n) with
    | some (_, col) => (.pragma (.read n), [col])
    | none => (.nothing, [])
  | _, some a =>
    if n == "busy_timeout" then (.pragma (.set n a), ["timeout"])
    else if (pragmaSettings.find? (·.1 == n)).isSome then (.pragma (.set n a), [])
    else (.nothing, [])

/-- Fails, when foreign keys are enforced, for a key a write must check that has no parent table
or a parent key that is a mismatch. -/
def checkWriteKeys (s : Store) (enforced : Bool) (table : String) (w : KeyWrite) : Except Fault Unit :=
  if !enforced then pure ()
  else
    match s.table? table with
    | some t => checkForeignKeys s t w
    | none => pure ()

/-- Compiles a statement against the content a connection sees, with foreign keys `enforced` or
not: its plan and result column names. -/
def compileStatement (s : Store) (enforced : Bool) : Option Statement → Except Fault (Plan × List String)
  | none => pure (.empty, [])
  | some st =>
    match st with
    | .query q => do
      let out ← compileQuery s q
      pure (.query out.plan, out.columns.map (·.name))
    | .insert ctes conflict table _ asName columns source upserts returning => do
      let (p, names) ← compileInsert s [] ctes conflict table asName columns source upserts returning
      let single := match s.table? p.table with
        | some t => p.singleRow t
        | none => false
      checkWriteKeys s enforced p.table (.insert single)
      checkTriggers s p.table .insert []
      pure (.write (.insert p), names)
    | .update ctes conflict table tok asName hint sets source filter returning => do
      let (p, names) ← compileUpdate s [] ctes conflict table tok asName hint sets source filter returning
      checkWriteKeys s enforced p.table (.update (p.assigned.columns.map (·.1)) p.assigned.rowid.isSome)
      checkTriggers s p.table .update (sets.flatMap fun a => a.columns.map (·.1))
      pure (.write (.update p), names)
    | .delete ctes table _ asName hint filter returning => do
      let (p, names) ← compileDelete s [] ctes table asName hint filter returning
      checkWriteKeys s enforced p.table .delete
      checkTriggers s p.table .delete []
      pure (.write (.delete p), names)
    | .createTable c => do
      let p ← prepareCreateTable s c
      pure (.schema p, [])
    | .createTableAs _ ifNot name tok q => do
      match ← prepareCreateTableAs s ifNot name tok q with
      | some (t, plan) => pure (.createTableAs (.createTable t []) t.name plan, [])
      | none => pure (.schema .nothing, [])
    | .createIndex c => do
      let p ← prepareCreateIndex s c
      pure (.schema p, [])
    | .createView _ ifNot name tok columns q sql => do
      let p ← prepareCreateView s ifNot name tok columns q sql
      pure (.schema p, [])
    | .createTrigger c => do
      let p ← prepareCreateTrigger s c
      pure (.schema p, [])
    | .drop kind ifExists name _ => do
      let p ← prepareDrop s kind ifExists name
      pure (.schema p, [])
    | .alterTable table _ action => do
      let p ← prepareAlter s table action
      pure (.schema p, [])
    | .pragma name arg => pure (compilePragma name arg)
    | .begin m => pure (.begin m, [])
    | .commit => pure (.commit, [])
    | .rollback none => pure (.rollback, [])
    | .rollback (some n) => pure (.rollbackTo n, [])
    | .savepoint n => pure (.savepoint n, [])
    | .release n => pure (.release n, [])
    | .vacuum | .analyze | .reindex | .explain .. => pure (.nothing, [])

/-- Prepares statement text on a connection. -/
def Engine.prepare (e : Engine) (i : Nat) (text : String) : Except Fault Prepared := do
  let parsed ← parse text
  let store := e.view i
  let (plan, columns) ← compileStatement store (e.handle i).foreignKeys parsed.statement
  pure ⟨String.ofList (text.toList.take parsed.stop), parsed.params, parsed.statement, plan, columns,
    store.schemaVersion⟩

/-! ## Locks -/

namespace Step

/-- The state of a connection. -/
def handle (i : Nat) : Step Handle := do
  let e ← get
  pure (e.handle i)

/-- Changes the state of a connection. -/
def update (i : Nat) (f : Handle → Handle) : Step Unit :=
  modify fun e => { e with handles := e.handles.modify i f }

/-- Takes the shared lock that reading a file needs. -/
def takeShared (i : Nat) : Step Unit := do
  let e ← get
  if e.sharing == .files && (e.handle i).lock == .none then
    if (e.others i).any fun h => h.lock.rank ≥ Lock.pending.rank then throw Fault.busy
    update i fun h => { h with lock := .shared }

/-- Takes what writing needs: the reserved lock of a file, or the write transaction of a
shared cache. -/
def takeReserved (i : Nat) : Step Unit := do
  let e ← get
  match e.sharing with
  | .alone => pure ()
  | .files =>
    takeShared i
    let h ← handle i
    if h.lock.rank < Lock.reserved.rank then
      if (e.others i).any fun o => o.lock.rank ≥ Lock.reserved.rank then throw Fault.busy
      update i fun h => { h with lock := .reserved }
  | .cache =>
    if !(e.handle i).writer then
      if (e.others i).any (·.writer) then throw (Fault.coded 262 "database table is locked")
      update i fun h => { h with writer := true }

/-- Takes the exclusive lock of a file; refused, the connection is left holding the pending
lock. -/
def takeExclusive (i : Nat) : Step Unit := do
  let e ← get
  if e.sharing == .files then
    if (e.others i).any fun h => h.lock.rank ≥ Lock.shared.rank then
      update i fun h => { h with lock := .pending }
      throw Fault.busy
    update i fun h => { h with lock := .exclusive }

/-- Locks tables of a shared cache for reading. -/
def lockReads (i : Nat) (tables : List String) : Step Unit := do
  let e ← get
  if e.sharing == .cache then
    match tables.find? fun t => (e.others i).any fun h => h.writes.any (sameName · t) with
    | some t => throw (Fault.coded 262 s!"database table is locked: {t}")
    | none => update i fun h => { h with reads := h.reads ++ tables }

/-- Locks tables of a shared cache for writing. -/
def lockWrites (i : Nat) (tables : List String) : Step Unit := do
  let e ← get
  if e.sharing == .cache then
    let taken (h : Handle) (t : String) := h.writes.any (sameName · t) || h.reads.any (sameName · t)
    match tables.find? fun t => (e.others i).any fun h => taken h t with
    | some t => throw (Fault.coded 262 s!"database table is locked: {t}")
    | none => update i fun h => { h with writes := h.writes ++ tables }

/-- Ends a transaction: drops the copy and the savepoints and lets go of every lock. -/
def endTransaction (i : Nat) : Step Unit :=
  update i fun h =>
    { h with autocommit := true, work := none, savepoints := [], lock := .none,
             reads := [], writes := [], writer := false, deferredViolations := 0 }

/-- After a statement outside a transaction, lets go of what it took. -/
def endStatement (i : Nat) : Step Unit := do
  if (← handle i).autocommit then endTransaction i

/-- Runs a statement's program, letting go of its locks afterwards when it is a statement of its
own, whether it succeeds or not. -/
def statement {α : Type} (i : Nat) (body : Step α) : Step α :=
  tryCatch (do
    let a ← body
    endStatement i
    pure a) fun f => do
    endStatement i
    throw f

/-- Fails unless the connection may write. -/
def checkWritable (i : Nat) : Step Unit := do
  let h ← handle i
  if h.readOnly || h.queryOnly then throw Fault.readonly

/-- Publishes a connection's content as the committed content of its database. -/
def publish (i : Nat) (s : Store) : Step Unit := do
  takeExclusive i
  let h ← handle i
  modify fun e => { e with stores := e.stores.modify h.database fun _ => s }

/-- Keeps what a write produced: committed at once outside a transaction, in the transaction's
copy inside one. -/
def keep (i : Nat) (s : Store) : Step Unit := do
  let h ← handle i
  if h.autocommit then publish i s
  else update i fun h => { h with work := some s }

/-- Commits a connection's transaction: publishes its copy, if it wrote, and ends it. A refused
lock keeps the transaction. -/
def commitWork (i : Nat) : Step Unit := do
  let h ← handle i
  match h.work with
  | some s => publish i s
  | none => pure ()
  endTransaction i

/-- The names of the stored tables a query reads, looking into its subqueries. -/
def queryTables : Nat → QueryPlan → List String
  | 0, _ => []
  | n + 1, q =>
    let cores : List CorePlan := compoundCoresOf q.body
    cores.flatMap fun c =>
      match c with
      | .select s => s.sources.flatMap fun k =>
        match k with
        | .table name => if isSchemaName name then [] else [name]
        | .query inner => queryTables n inner
        | .recursive _ a b _ _ _ _ => queryTables n a ++ queryTables n b
        | .working _ => []
      | .values _ => []
where
  /-- The cores of a compound, left to right. -/
  compoundCoresOf : CompoundPlan → List CorePlan
    | .core c => [c]
    | .join _ l r _ => compoundCoresOf l ++ [r]

/-- The tables a write statement writes, with `sqlite_sequence` for an autoincrement table. -/
def writeTables (s : Store) (w : WritePlan) : List String :=
  match s.table? w.table with
  | some t => if t.autoincrement then [t.name, "sqlite_sequence"] else [t.name]
  | none => [w.table]

/-- Runs a write on what the connection sees and keeps the result, giving the rows of its
`returning` clause. -/
def write (i : Nat) (w : WritePlan) (params : Array Datum) : Step (List (List Datum)) := do
  checkWritable i
  takeReserved i
  let e ← get
  lockWrites i (writeTables (e.view i) w)
  let e ← get
  let h ← handle i
  let start : WriteState :=
    { store := e.view i, call := e.env i, params, foreignKeys := h.foreignKeys,
      fkDeferred := h.deferredViolations }
  -- violations counted when the statement ends fail it; deferred ones only when it commits
  let checked : Writing Unit := do
    w.run
    let st ← get
    if st.fkPending > 0 || (h.autocommit && st.fkDeferred > 0) then refuse .abort Fault.foreignKey
  match checked.run start with
  | .ok _ st =>
    keep i st.store
    update i fun h =>
      { h with changes := st.changes,
               totalChanges := h.totalChanges + st.changes + st.nestedChanges,
               lastRowid := st.lastRowid.getD h.lastRowid,
               deferredViolations := if h.autocommit then 0 else st.fkDeferred }
    pure st.returned.toList
  | .error f st =>
    update i fun h => { h with lastRowid := st.lastRowid.getD h.lastRowid }
    -- the failure reports what it undid
    let undo := f.undone st.failure
    match undo with
    | .nothing =>
      keep i st.store
      update i fun h => { h with changes := st.changes, totalChanges := h.totalChanges + st.changes }
    | .transaction =>
      update i fun h => { h with changes := 0 }
      endTransaction i
    | .statement => update i fun h => { h with changes := 0 }
    throw { f with undo }

/-- The savepoint of a name, newest first, with its place. -/
def findSavepoint (h : Handle) (name : String) : Option (Savepoint × Nat) :=
  h.savepoints.zipIdx.find? fun (sp, _) => sameName sp.name name

/-- Runs a pragma. -/
def pragma (i : Nat) (p : PragmaPlan) : Step (List (List Datum)) := do
  match p with
  | .tableInfo t ext =>
    takeShared i
    pure (tableInfoRows ((← get).view i) t ext)
  | .indexList t =>
    takeShared i
    pure (indexListRows ((← get).view i) t)
  | .indexInfo t ext =>
    takeShared i
    pure (indexInfoRows ((← get).view i) t ext)
  | .foreignKeyList t =>
    takeShared i
    pure (foreignKeyListRows ((← get).view i) t)
  | .foreignKeyCheck t =>
    takeShared i
    match foreignKeyCheckRows ((← get).view i) t with
    | .ok rows => pure rows
    | .error f => throw f
  | .read name =>
    let h ← handle i
    let s := (← get).view i
    let truth (b : Bool) : List (List Datum) := [[.integer (if b then 1 else 0)]]
    match name with
    | "query_only" => pure (truth h.queryOnly)
    | "busy_timeout" => pure [[.integer h.busyTimeout]]
    | "user_version" => pure [[.integer s.userVersion]]
    | "schema_version" => pure [[.integer s.schemaVersion]]
    | "encoding" => pure [[Datum.ofString "UTF-8"]]
    | "page_size" => pure [[.integer 4096]]
    | "foreign_keys" => pure (truth h.foreignKeys)
    | "integrity_check" | "quick_check" => pure [[Datum.ofString "ok"]]
    | "page_count" => pure [[.integer s.pages.count]]
    | "freelist_count" => pure [[.integer s.pages.freeCount]]
    | "cache_size" => pure [[.integer (-2000)]]
    | "synchronous" => pure [[.integer 2]]
    | "journal_mode" => pure [[Datum.ofString "memory"]]
    | "locking_mode" => pure [[Datum.ofString "normal"]]
    | _ => pure [[.integer 0]]
  | .set name arg =>
    match name with
    | "query_only" =>
      update i fun h => { h with queryOnly := pragmaTruth arg }
      pure []
    | "busy_timeout" =>
      let ms := pragmaInt arg
      let ms : Nat := if ms > 0 then ms.toNat else 0
      update i fun h => { h with busyTimeout := ms }
      pure [[.integer ms]]
    | "foreign_keys" =>
      let h ← handle i
      if h.autocommit then update i fun h => { h with foreignKeys := pragmaTruth arg }
      pure []
    | "user_version" =>
      checkWritable i
      takeReserved i
      let e ← get
      keep i { e.view i with userVersion := pragmaInt arg }
      pure []
    | _ => pure []

end Step

/-! ## Running -/

/-- The rows a failing query hands out before its failing step, given the `rows` of a run that
asked for `k` rows and got them all. The evaluator computes a query only as far as the rows
asked for, so stepping a query once more is running it asking for one row more. -/
def rowsBeforeFault (run : Nat → Except Fault (List (List Datum))) :
    Nat → Nat → List (List Datum) → List (List Datum)
  | 0, _, rows => rows
  | fuel + 1, k, rows =>
    match run (k + 1) with
    | .ok more => if more.length == k + 1 then rowsBeforeFault run fuel (k + 1) more else rows
    | .error _ => rows

/-- A query stepped to its end: the rows it hands out, and the fault of the step after them when
that step fails. -/
def stepQuery (env : Env) (q : QueryPlan) : List (List Datum) × Option Fault :=
  match runQuery runFuel env [] q none with
  | .ok rows => (rows, none)
  | .error f => (rowsBeforeFault (fun k => runQuery runFuel env [] q (some k)) runFuel 0 [], some f)

/-- Runs a compiled plan on a connection with its parameter values; `names` are its result
columns. -/
def Engine.runPlan (i : Nat) (plan : Plan) (names : List String) (params : Array Datum) :
    Step Output := do
  let none' : Output := ⟨names, [], none⟩
  match plan with
  | .empty => throw (Fault.coded 21 "not an error")
  | .nothing => pure none'
  | .query q => Step.statement i do
    Step.takeShared i
    Step.lockReads i (Step.queryTables 64 q)
    let e ← get
    let env : Env := { store := e.view i, params, call := e.env i }
    let (rows, failure) := stepQuery env q
    pure ⟨names, rows, failure⟩
  | .pragma pr => Step.statement i do
    let rows ← Step.pragma i pr
    pure ⟨names, rows, none⟩
  | .write w => Step.statement i do
    let rows ← Step.write i w params
    pure ⟨names, rows, none⟩
  | .schema c => Step.statement i do
    Step.checkWritable i
    Step.takeReserved i
    let e ← get
    let h ← Step.handle i
    let base ← match c with
      | .dropTable name =>
        if !h.foreignKeys then pure (e.view i)
        else
          let start : WriteState :=
            { store := e.view i, call := e.env i, params := #[], foreignKeys := true,
              fkDeferred := h.deferredViolations }
          match (emptyForDrop name).run start with
          | .ok _ st =>
            if h.autocommit && st.fkDeferred > 0 then throw Fault.foreignKey
            Step.update i fun h => { h with deferredViolations := st.fkDeferred }
            pure st.store
          | .error f _ => throw f
      | _ => pure (e.view i)
    match c.apply base with
    | .ok s => Step.keep i s
    | .error f => throw f
    pure none'
  | .createTableAs c name q => Step.statement i do
    Step.checkWritable i
    Step.takeReserved i
    Step.lockReads i (Step.queryTables 64 q)
    let e ← get
    let env : Env := { store := e.view i, params, call := e.env i }
    let rows ← match runQuery runFuel env [] q none with
      | .ok rows => pure rows
      | .error f => throw f
    match c.apply (e.view i) with
    | .ok s =>
      match s.table? name with
      | some t =>
        let filled := rows.zipIdx.map fun (r, k) =>
          (⟨k + 1, (t.columns.zip r.toArray).map fun (c, d) => c.store d⟩ : Row)
        Step.keep i (s.putTable { t with rows := filled })
      | none => Step.keep i s
    | .error f => throw f
    pure none'
  | .begin mode => do
    let h ← Step.handle i
    if !h.autocommit then throw (Fault.error "cannot start a transaction within a transaction")
    let locks : Step Unit := match mode with
      | .deferred => pure ()
      | .immediate => do
        Step.checkWritable i
        Step.takeReserved i
      | .exclusive => do
        Step.checkWritable i
        Step.takeReserved i
        Step.takeExclusive i
    tryCatch locks fun f => do
      Step.endTransaction i
      throw f
    Step.update i fun h => { h with autocommit := false }
    pure none'
  | .commit => do
    let h ← Step.handle i
    if h.autocommit then throw (Fault.error "cannot commit - no transaction is active")
    if h.deferredViolations > 0 then throw Fault.foreignKey
    Step.commitWork i
    pure none'
  | .rollback => do
    let h ← Step.handle i
    if h.autocommit then throw (Fault.error "cannot rollback - no transaction is active")
    Step.endTransaction i
    pure none'
  | .savepoint name => do
    Step.update i fun h =>
      { h with savepoints := ⟨name, h.work, h.autocommit, h.deferredViolations⟩ :: h.savepoints,
               autocommit := false }
    pure none'
  | .release name => do
    let h ← Step.handle i
    match Step.findSavepoint h name with
    | none => throw (Fault.error s!"no such savepoint: {name}")
    | some (sp, k) =>
      if sp.begins then
        if h.deferredViolations > 0 then throw Fault.foreignKey
        Step.commitWork i
      else Step.update i fun h => { h with savepoints := h.savepoints.drop (k + 1) }
      pure none'
  | .rollbackTo name => do
    let h ← Step.handle i
    match Step.findSavepoint h name with
    | none => throw (Fault.error s!"no such savepoint: {name}")
    | some (sp, k) =>
      -- a transaction that wrote stays a writing one: its commit still needs the exclusive lock
      let e ← get
      let committed := e.stores.getD h.database Store.empty
      let work := match sp.snapshot with
        | some s => some s
        | none => h.work.map fun _ => committed
      Step.update i fun h =>
        { h with work, savepoints := h.savepoints.drop k, deferredViolations := sp.deferred }
      pure none'

/-- Runs a prepared statement on a connection with its parameter values. -/
def Engine.run (i : Nat) (p : Prepared) (params : Array Datum) : Step Output := do
  let e ← get
  let store := e.view i
  -- a statement compiled against an older schema is compiled again
  let (plan, names) ← if store.schemaVersion == p.schema then pure (p.plan, p.columns)
    else match compileStatement store (e.handle i).foreignKeys p.statement with
      | .ok r => pure r
      | .error f => throw f
  Engine.runPlan i plan names params

/-- Ends a connection: its transaction is dropped and its locks let go. -/
def Engine.disconnect (e : Engine) (i : Nat) : Engine :=
  let e := match (Step.endTransaction i).run e with
    | .ok _ e => e
    | .error _ e => e
  { e with handles := e.handles.modify i fun h => { h with live := false } }

/-- Whether any open connection uses a database. -/
def Engine.inUse (e : Engine) (database : Nat) : Bool :=
  e.handles.any fun h => h.live && h.database == database

/-- The engine with a new, empty database, and its number. -/
def Engine.addDatabase (e : Engine) : Engine × Nat :=
  ({ e with stores := e.stores.push Store.empty }, e.stores.size)

end RecordMap.Sql
