import RecordMap.Database.Command

/-!
# Creating and migrating tables

`createTable` makes a record type's table ready. When the engine knows no table of that name it
is created from the mapping's column declarations; otherwise each mapped column the table lacks
(storage names compared up to ASCII case) is added. Then every index the columns ask for is
created when missing: index memberships of one name form one index, named `<table>_<column>`
when unnamed, with its columns in ascending order and all of them agreeing on uniqueness.

`tableInfo` reads the engine's description of a table's columns.
-/

namespace RecordMap

open RecordMap.Text

/-- Whether a table was made or brought up to date. -/
inductive CreateTableResult where
  | created
  | migrated
  deriving Repr, DecidableEq, Inhabited

/-- The name of a result. -/
def CreateTableResult.name : CreateTableResult → String
  | .created => "Created"
  | .migrated => "Migrated"

/-- A column of a table as the engine describes it. -/
structure ColumnInfo where
  name : String
  declaredType : String
  notNull : Bool
  defaultValue : Option String
  primaryKey : Bool
  deriving Repr, Inhabited

/-- An index to create: its name, whether it is unique, and its columns with their order. -/
structure IndexPlan where
  name : String
  unique : Bool
  columns : List (Int × String)
  deriving Inhabited

/-- Adds a column's index membership to the plans. -/
def addMembership (table column : String) (plans : List IndexPlan) (a : IndexAttr) :
    Outcome (List IndexPlan) :=
  let name := a.name.getD (table ++ "_" ++ column)
  match plans.find? (·.name == name) with
  | some p =>
    if p.unique != a.unique then
      throw (.schema ("all the columns in index " ++ name ++
        " must have the same value for their unique property"))
    else
      pure (plans.map fun q => if q.name == name then { q with columns := q.columns ++ [(a.order, column)] } else q)
  | none => pure (plans ++ [⟨name, a.unique, [(a.order, column)]⟩])

/-- The indexes a mapping's columns ask for, in the order they are first named, each with its
columns in ascending order (ties kept in column order). -/
def planIndexes (m : Mapping) : Outcome (List IndexPlan) := do
  let addColumn (plans : List IndexPlan) (col : Column) : Outcome (List IndexPlan) :=
    col.indices.foldlM (addMembership m.tableName col.name) plans
  let plans ← m.columns.foldlM addColumn []
  pure (plans.map fun p => { p with columns := p.columns.mergeSort fun a b => a.1 ≤ b.1 })

namespace Db

/-- The text of a description column, empty when null. -/
def infoText (r : Row) (name : String) : Outcome String :=
  match r.getByName? name with
  | some (.text s) => .ok s
  | some .null => .ok ""
  | some other => .error (Row.expected "TEXT" other)
  | none => .error (.notFound ("table_info has no " ++ name ++ " column"))

/-- The integer of a description column. -/
def infoInt (r : Row) (name : String) : Outcome Int :=
  match r.getByName? name with
  | some (.int i) => .ok i
  | some other => .error (Row.expected "INTEGER" other)
  | none => .error (.notFound ("table_info has no " ++ name ++ " column"))

/-- A column description read from a row of `pragma table_info`. -/
def columnInfo (r : Row) : Outcome ColumnInfo := do
  let defaultValue := match r.getByName? "dflt_value" with
    | some .null | none => none
    | some other => some other.displayText
  let name ← infoText r "name"
  let declaredType ← infoText r "type"
  let notNull ← infoInt r "notnull"
  let primaryKey ← infoInt r "pk"
  pure ⟨name, declaredType, notNull != 0, defaultValue, primaryKey != 0⟩

/-- The engine's description of a table's columns; none for a table it does not know. -/
def tableInfo (c : Nat) (table : String) : Db (List ColumnInfo) := do
  let rows ← queryRows c ("pragma table_info(" ++ quoteIdentifier table ++ ")") []
  rows.mapM fun r => ofOutcome (columnInfo r)

/-- Creates an index when there is none of its name: the engine's change count. -/
def createIndex (c : Nat) (name table : String) (columns : List String) (unique : Bool) :
    Db Nat :=
  let sql := "create " ++ (if unique then "unique " else "") ++ "index if not exists " ++
    quoteIdentifier name ++ " on " ++ quoteIdentifier table ++ "(" ++
    ", ".intercalate (columns.map quoteIdentifier) ++ ")"
  execute c sql []

/-- Adds the mapped columns a table lacks. -/
def migrateTable (c : Nat) (m : Mapping) (existing : List ColumnInfo) : Db Unit := do
  let ticks := (← connection c).ticks
  for col in m.columns do
    if !existing.any (eqIgnoreAsciiCase ·.name col.name) then
      let decl ← ofOutcome (col.sqlDecl ticks)
      let _ ← execute c ("alter table " ++ quoteIdentifier m.tableName ++ " add column " ++ decl) []

/-- Records that a record type's table was made ready. -/
def markCreated (c : Nat) (rt : RecordType) : Db Unit :=
  modifyConnection c fun k =>
    if k.created.contains rt.id then k else { k with created := k.created ++ [rt.id] }

/-- Makes a record type's table ready, mapping the type with `flags` when it is not yet mapped. -/
def createTableWith (c : Nat) (rt : RecordType) (flags : CreateFlags) : Db CreateTableResult := do
  let m ← mappingWith c rt flags
  let indexes ← ofOutcome (planIndexes m)
  let ticks := (← connection c).ticks
  let existing ← tableInfo c m.tableName
  let result ← if existing.isEmpty then do
      let decls ← m.columns.mapM fun col => ofOutcome (col.sqlDecl ticks)
      let sql := "create table if not exists " ++ quoteIdentifier m.tableName ++ "(" ++
        ", ".intercalate decls ++ ")" ++ (if m.withoutRowid then " without rowid" else "")
      let _ ← execute c sql []
      pure CreateTableResult.created
    else do
      migrateTable c m existing
      pure CreateTableResult.migrated
  for p in indexes do
    let _ ← createIndex c p.name m.tableName (p.columns.map (·.2)) p.unique
  markCreated c rt
  pure result

/-- Makes a record type's table ready with the connection's creation flags. -/
def createTable (c : Nat) (rt : RecordType) : Db CreateTableResult := do
  createTableWith c rt (← connection c).createFlags

/-- Drops a record type's table when it exists: the engine's change count. -/
def dropTable (c : Nat) (rt : RecordType) : Db Nat := do
  let m ← mapping c rt
  let changed ← execute c ("drop table if exists " ++ quoteIdentifier m.tableName) []
  modifyConnection c fun k => { k with created := k.created.filter (· != rt.id) }
  pure changed

end Db

end RecordMap
