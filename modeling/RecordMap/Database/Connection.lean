import RecordMap.Sql.Engine
import RecordMap.Schema.Catalog
import RecordMap.Database.Codec

/-!
# Connections

A `Connection` is the library's side of a connection to the engine: the engine connection it
talks through (none once closed), where the database is, how timestamps are stored, the
creation flags for mappings, and what it keeps for the record types it has seen: their
mappings, which tables it created, and how deep its transactions are nested.

A `World` holds the engine, every connection, and the source of the random numbers that fresh
identifiers and savepoint names are drawn from. Library operations are `Db` programs: they run
on the world and may fail with an `Error`, keeping the state they reached, as a connection keeps
what a failed statement left behind.
-/

namespace RecordMap

open RecordMap.Sql (Engine Fault Datum)

/-- A record type: its identity, its name, and its declaration. -/
structure RecordType where
  id : Nat
  name : String
  table : TableDef
  deriving Inhabited

/-- The record of a type with every field at its default. -/
def RecordType.blank (rt : RecordType) : List Value := rt.table.columns.map (·.field.default)

/-- The default time a busy database is waited for, in milliseconds. -/
def defaultBusyTimeout : Nat := 100

/-- What the library keeps for one connection. -/
structure Connection where
  handle : Option Nat
  path : String
  ticks : Bool := true
  createFlags : CreateFlags := CreateFlags.none
  busyTimeout : Nat := defaultBusyTimeout
  /-- How many transactions and savepoints are open. -/
  depth : Nat := 0
  catalog : Catalog := {}
  /-- The record types whose tables were created or migrated. -/
  created : List Nat := []
  deriving Inhabited

/-- The engine, the connections, and the random source. -/
structure World where
  engine : Engine
  connections : Array Connection := #[]
  /-- The state of the random source. -/
  entropy : Nat := 0
  /-- The identifiers generated so far, oldest first. -/
  generated : List Uuid := []
  /-- The databases that can be opened again by name: files by their path, shared in-memory
  databases by theirs. -/
  databases : List (String × Nat) := []
  deriving Inhabited

/-- A program on the world that may fail. -/
abbrev Db := EStateM Error World

namespace Db

def fail {α : Type} (e : Error) : Db α := throw e

/-- Runs a program and hands back its outcome instead of failing. -/
def attempt {α : Type} (p : Db α) : Db (Outcome α) :=
  tryCatch (.ok <$> p) fun e => pure (.error e)

/-- Runs a program for its effects, ignoring its failure. -/
def quietly (p : Db Unit) : Db Unit := tryCatch p fun _ => pure ()

/-- Fails with the error of an outcome. -/
def ofOutcome {α : Type} : Outcome α → Db α
  | .ok a => pure a
  | .error e => throw e

/-- Fails with a value conversion fault. -/
def ofTyped {α : Type} : Except TypeFault α → Db α
  | .ok a => pure a
  | .error f => throw (.unsupportedType f)

/-- The state of a connection. -/
def connection (c : Nat) : Db Connection := do
  pure ((← get).connections.getD c default)

/-- Changes the state of a connection. -/
def modifyConnection (c : Nat) (f : Connection → Connection) : Db Unit :=
  modify fun w => { w with connections := w.connections.modify c f }

/-- The next random number below `2 ^ 64`: a step of a 64-bit linear congruential generator. -/
def random : Db Nat := do
  let w ← get
  let next := (w.entropy * 6364136223846793005 + 1442695040888963407) % Nat.pow 2 64
  set { w with entropy := next }
  pure next

/-- A fresh version 4 identifier, remembered among the generated ones. -/
def freshUuid : Db Uuid := do
  let hi ← random
  let lo ← random
  let u := Uuid.ofRandom (hi * Nat.pow 2 64 + lo)
  modify fun w => { w with generated := w.generated ++ [u] }
  pure u

/-- Runs an engine program, keeping the engine it leaves. -/
def engine {α : Type} (p : Sql.Step α) : Db (Except Fault α) := do
  let w ← get
  match p.run w.engine with
  | .ok a e =>
    set { w with engine := e }
    pure (.ok a)
  | .error f e =>
    set { w with engine := e }
    pure (.error f)

/-- The engine connection of a connection; a closed one is misused. -/
def handle (c : Nat) : Db Nat := do
  let k ← connection c
  match k.handle with
  | some h => pure h
  | none => throw (.execution 21 ("connection to " ++ k.path ++ " is closed"))

/-- What the engine keeps for a connection, when it is open. -/
def engineHandle? (c : Nat) : Db (Option Sql.Handle) := do
  let k ← connection c
  let w ← get
  pure (k.handle.map w.engine.handle)

/-- The rows the last insert, update or delete changed; 0 on a closed connection. -/
def changes (c : Nat) : Db Nat := do
  pure (((← engineHandle? c).map (·.changes)).getD 0)

/-- The row id of the last inserted row; 0 on a closed connection. -/
def lastInsertRowid (c : Nat) : Db Int := do
  pure (((← engineHandle? c).map (·.lastRowid)).getD 0)

/-- Whether the connection is open. -/
def isOpen (c : Nat) : Db Bool := do
  pure (← connection c).handle.isSome

/-- The mapping of a record type; `flags` build it when the connection has none kept. -/
def mappingWith (c : Nat) (rt : RecordType) (flags : CreateFlags) : Db Mapping := do
  let k ← connection c
  let (e, catalog) ← ofOutcome (k.catalog.getMapping rt.id rt.name rt.table flags)
  modifyConnection c fun k => { k with catalog }
  pure e.mapping

/-- The mapping of a record type, built with the connection's creation flags. -/
def mapping (c : Nat) (rt : RecordType) : Db Mapping := do
  mappingWith c rt (← connection c).createFlags

/-- Whether the table of a record type was created on this connection. -/
def isTableCreated (c : Nat) (rt : RecordType) : Db Bool := do
  pure ((← connection c).created.contains rt.id)

/-- The error of statement text the engine refused: a message pointing into the text carries
the text and the place. -/
def prepareError (text : String) (f : Fault) : Error :=
  match f.offset with
  | some n =>
    if f.code == 1 then .execution 1 (f.message ++ " in " ++ text ++ " at offset " ++ toString n)
    else Error.ofEngine f.code f.message
  | none => Error.ofEngine f.code f.message

/-- The error of a statement that failed while running. -/
def runError (f : Fault) : Error := Error.ofEngine f.code f.message

end Db

end RecordMap
