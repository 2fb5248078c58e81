import RecordMap.Database.Transaction

/-!
# Reading and writing records

Records are written and read by the statements their mapping derives:

* `insert` first gives an identifier key that is null or nil a fresh identifier, then binds the
  columns of the insert mode; after a row was inserted, an auto-increment key takes the row id.
* `update` sets every column but the key (the key itself when it is the only column) on the
  row with the record's key; `delete` removes the row with the record's key, `deleteByKey` the
  row with a given key, `deleteAll` every row.
* `find` reads the row with a key, `get` fails when there is none.

A NOT NULL violation from an insert or update carries the record's mapped values. The record
an insert leaves is handed back even when it fails: an identifier it was given stays.
-/

namespace RecordMap

open RecordMap.Text

namespace Db

/-- The error with the record attached, when it is a NOT NULL violation. -/
def attachRecord (m : Mapping) (record : List Value) : Error → Error
  | .notNull message _ =>
    .notNull message (some (m.columns.map fun col => ⟨col.name, col.nullable, col.valueOf record⟩))
  | e => e

/-- Stores a value into a record's field of a column. -/
def assign (col : Column) (record : List Value) (v : Value) : Db (List Value) := do
  let stored ← ofTyped (col.field.accept v)
  pure (record.set col.position stored)

/-- Whether an identifier key holds no identifier yet. -/
def unsetIdentifier : Value → Bool
  | .null => true
  | .uuid u => u == Uuid.nil
  | _ => false

/-- Gives an identifier key that holds none a fresh identifier. -/
def assignIdentifier (m : Mapping) (record : List Value) : Db (List Value) :=
  match m.pkColumn with
  | some pk =>
    if pk.isAutoGuid && unsetIdentifier (pk.valueOf record) then do
      let u ← freshUuid
      assign pk record (.uuid u)
    else pure record
  | none => pure record

/-- Inserts a record: the record as the insert leaves it, and the rows inserted. -/
def insertWith (c : Nat) (rt : RecordType) (mode : InsertMode) (record : List Value) :
    Db (List Value × Outcome Nat) := do
  match ← attempt (mapping c rt) with
  | .error e => pure (record, .error e)
  | .ok m =>
  match ← attempt (assignIdentifier m record) with
  | .error e => pure (record, .error e)
  | .ok record =>
  let columns := match mode with
    | .plain => m.insertColumns
    | .replace => m.replaceColumns
  let values := columns.map (·.valueOf record)
  match ← attempt (execute c (m.insertSql mode) values) with
  | .error e => pure (record, .error (attachRecord m record e))
  | .ok changed =>
  match m.pkColumn with
  | some pk =>
    if changed > 0 && m.hasAutoIncPk then
      match ← attempt (do assign pk record (.int (← lastInsertRowid c))) with
      | .ok r => pure (r, .ok changed)
      | .error e => pure (record, .error e)
    else pure (record, .ok changed)
  | none => pure (record, .ok changed)

/-- Inserts records one after the other, up to the first failure: the records as the inserts
leave them, and the rows inserted. -/
def insertEach (c : Nat) (rt : RecordType) :
    List (List Value) → Db (List (List Value) × Outcome Nat)
  | [] => pure ([], .ok 0)
  | r :: rest => do
    let (r, out) ← insertWith c rt .plain r
    match out with
    | .error e => pure (r :: rest, .error e)
    | .ok n =>
      let (rest, more) ← insertEach c rt rest
      pure (r :: rest, more.map (n + ·))

/-- Inserts records, inside a transaction when asked: the records as the call leaves them, and
the rows inserted. -/
def insertAll (c : Nat) (rt : RecordType) (records : List (List Value)) (inTransaction : Bool) :
    Db (List (List Value) × Outcome Nat) := do
  if inTransaction then
    match ← attempt (runInTransaction c id (insertEach c rt records)) with
    | .ok result => pure result
    | .error e => pure (records, .error e)
  else insertEach c rt records

/-- The update statement of a mapping and the columns it binds, the key last. -/
def updatePlan (m : Mapping) : Outcome (String × List Column) := do
  let some pk := m.pkColumn
    | throw (.schema ("cannot update " ++ m.tableName ++ ": it has no primary key"))
  let others := m.columns.filter (!·.isPk)
  let columns := if others.isEmpty then [pk] else others
  let sets := columns.map fun col => quoteIdentifier col.name ++ " = ?"
  let sql := "update " ++ quoteIdentifier m.tableName ++ " set " ++ ", ".intercalate sets ++
    " where " ++ quoteIdentifier pk.name ++ " = ?"
  pure (sql, columns ++ [pk])

/-- Updates the row of a record's key: the rows changed. -/
def update (c : Nat) (rt : RecordType) (record : List Value) : Db Nat := do
  let m ← mapping c rt
  let (sql, columns) ← ofOutcome (updatePlan m)
  tryCatch (execute c sql (columns.map (·.valueOf record))) fun e => throw (attachRecord m record e)

/-- Updates records one after the other, up to the first failure. -/
def updateEach (c : Nat) (rt : RecordType) : List (List Value) → Db (Unit × Outcome Nat)
  | [] => pure ((), .ok 0)
  | r :: rest => do
    match ← attempt (update c rt r) with
    | .error e => pure ((), .error e)
    | .ok n =>
      let (_, more) ← updateEach c rt rest
      pure ((), more.map (n + ·))

/-- Updates records, inside a transaction when asked: the rows changed. -/
def updateAll (c : Nat) (rt : RecordType) (records : List (List Value)) (inTransaction : Bool) :
    Db Nat := do
  let (_, out) ← if inTransaction then runInTransaction c id (updateEach c rt records)
    else updateEach c rt records
  ofOutcome out

/-- The delete-by-key statement of a mapping and its key column. -/
def deletePlan (m : Mapping) : Outcome (String × Column) := do
  let some pk := m.pkColumn
    | throw (.schema ("cannot delete from " ++ m.tableName ++ " by key: it has no primary key"))
  pure ("delete from " ++ quoteIdentifier m.tableName ++ " where " ++ quoteIdentifier pk.name ++
    " = ?", pk)

/-- Deletes the row of a record's key: the rows deleted. -/
def delete (c : Nat) (rt : RecordType) (record : List Value) : Db Nat := do
  let m ← mapping c rt
  let (sql, pk) ← ofOutcome (deletePlan m)
  execute c sql [pk.valueOf record]

/-- Deletes the row with a key: the rows deleted. -/
def deleteByKey (c : Nat) (rt : RecordType) (key : Value) : Db Nat := do
  let m ← mapping c rt
  let (sql, _) ← ofOutcome (deletePlan m)
  execute c sql [key]

/-- Deletes every row: the rows deleted. -/
def deleteAll (c : Nat) (rt : RecordType) : Db Nat := do
  let m ← mapping c rt
  execute c ("delete from " ++ quoteIdentifier m.tableName) []

/-- The record with a key, if there is one. -/
def find (c : Nat) (rt : RecordType) (key : Value) : Db (Option (List Value)) := do
  let m ← mapping c rt
  let cmd : Command := ⟨m.getByPkSql, []⟩
  let cmd := if m.pk.isSome then cmd.bind key else cmd
  pure (← executeQuery c rt cmd).head?

/-- The record with a key; there must be one. -/
def get (c : Nat) (rt : RecordType) (key : Value) : Db (List Value) := do
  match ← find c rt key with
  | some r => pure r
  | none =>
    let table := match ← attempt (mapping c rt) with
      | .ok m => m.tableName
      | .error _ => rt.name
    throw (.notFound ("no row in " ++ table ++ " with primary key " ++ key.displayText))

end Db

end RecordMap
