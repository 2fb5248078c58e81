import RecordMap.Sql.Write

/-!
# Foreign keys

A foreign key of a table (the child) names columns of another table (the parent) whose values
its own columns must hold, unless one of them is null. What it names in the parent must be the
rowid, or the key of a unique index with no expression and no condition, each column under its
own collation; anything else is a mismatch, and a write that has to check such a key fails.

Violations are counted rather than refused on the spot:

* writing a child row whose parent is missing counts one, and removing such a row takes one
  away (only while some are counted);
* removing a parent row counts one for each child row that refers to it, and adding one takes
  one away for each (again only while some are counted).

A statement that ends with violations counted fails and is undone. A key declared
`deferrable initially deferred` counts in the transaction instead, which then cannot commit.
A single row of values inserted on its own is refused at once when its parent is missing.

The parent of a child row is found as an index search finds it: the child values take the
affinities of the parent's columns and are compared under the index's collations; for the rowid,
the value must read as an integer. The children of a parent row are found by comparing each
parent value with the child column, under the parent column's collation.
-/

namespace RecordMap.Sql

/-- Where a foreign key finds its parent row. -/
inductive ParentKey where
  /-- The parent's rowid, which the one child column holds. -/
  | rowid
  /-- A unique index of the parent, with the child column that holds each of its columns. -/
  | index (ix : Index) (childColumns : List Nat)
  deriving Inhabited

/-- The parent key a foreign key refers to: the rowid when it names the column that is the rowid
(or names none, and that column is the primary key); else the first unique index of the parent's
list whose columns are exactly those it names (or, naming none, the primary key), each under
the column's own collation. None is a mismatch. -/
def locateParentKey (parent : Table) (fk : ForeignKey) : Option ParentKey :=
  let n := fk.columns.length
  let named := fk.reference.columns
  let rowidKey := n == 1 && match parent.rowidAlias with
    | some k =>
      match named with
      | [] => true
      | c :: _ => sameName (parent.column k).name c
    | none => false
  if rowidKey then some .rowid
  else
    parent.indexes.findSome? fun ix =>
      if ix.terms.length != n || !ix.unique || ix.filter.isSome then none
      else if named.isEmpty then
        if ix.origin == .primaryKey then some (.index ix fk.columns) else none
      else
        (ix.terms.mapM fun (it : IndexTerm) => do
          let k ← it.column
          let col := parent.column k
          guard (it.collation = col.collation)
          let j ← named.findIdx? (sameName · col.name)
          fk.columns[j]?).map (.index ix)

namespace ParentKey

/-- The child columns that hold the parent key, in the key's order. -/
def childColumns (pk : ParentKey) (fk : ForeignKey) : List Nat :=
  match pk with
  | .rowid => fk.columns.take 1
  | .index _ cols => cols

/-- The values of the key in a parent row, each with the affinity and collation it is compared
under. -/
def values (pk : ParentKey) (parent : Table) (r : Row) : List (Datum × Affinity × Collation) :=
  match pk with
  | .rowid => [(.integer r.rowid, .integer, .binary)]
  | .index ix _ =>
    ix.terms.map fun it =>
      let k := it.column.getD 0
      (parent.value r k, (parent.column k).affinity, (parent.column k).collation)

/-- Whether the parent holds a row with the key that child values give: for the rowid, the value
read as an integer; for an index, the values under the parent columns' affinities, compared
under the index's collations. -/
def finds (pk : ParentKey) (parent : Table) (vals : List Datum) : Bool :=
  match pk with
  | .rowid =>
    match mustBeInteger (vals.headD .null) with
    | .ok id => (parent.row? id).isSome
    | .error _ => false
  | .index ix _ =>
    let wanted := (ix.terms.zip vals).map fun (it, v) =>
      let k := it.column.getD 0
      (k, it.collation, Datum.withAffinity (parent.column k).affinity v)
    parent.rows.any fun r =>
      wanted.all fun (k, c, v) => compareDatum c (parent.value r k) v == .eq

/-- Whether a row written to a table that is its own parent is its own parent row: its rowid is
the value, or each key column holds the very value of its child column. -/
def selfParent (pk : ParentKey) (t : Table) (r : Row) (vals : List Datum) : Bool :=
  match pk with
  | .rowid =>
    match mustBeInteger (vals.headD .null) with
    | .ok id => id == r.rowid
    | .error _ => false
  | .index ix _ =>
    (ix.terms.zip vals).all fun (it, v) =>
      Datum.compareNonNull? .binary v (t.value r (it.column.getD 0)) == some .eq

/-- Whether a child row refers to parent key values: each value equals its child column under
the comparison of the parent column with the child column. -/
def refersTo (pk : ParentKey) (fk : ForeignKey) (child : Table) (keyValues : List (Datum × Affinity × Collation))
    (r : Row) : Bool :=
  (keyValues.zip (pk.childColumns fk)).all fun ((v, aff, coll), c) =>
    compareUnder (Affinity.comparison aff (child.column c).affinity) coll v (child.value r c) == some .eq

end ParentKey

namespace ForeignKey

/-- Whether an update that assigns the columns `changed` (and the rowid, when `rowidChanged`)
changes a child column of the key. -/
def childModified (fk : ForeignKey) (t : Table) (changed : List Nat) (rowidChanged : Bool) : Bool :=
  fk.columns.any fun c => changed.contains c || (t.rowidAlias == some c && rowidChanged)

/-- Whether an update of the parent that assigns the columns `changed` (and the rowid, when
`rowidChanged`) changes a column the key names, or a primary key column when it names none. -/
def parentModified (fk : ForeignKey) (parent : Table) (changed : List Nat) (rowidChanged : Bool) :
    Bool :=
  (List.range parent.columns.size).any fun k =>
    (changed.contains k || (parent.rowidAlias == some k && rowidChanged)) &&
      match fk.reference.columns with
      | [] => (parent.column k).primary
      | named => named.any (sameName · (parent.column k).name)

end ForeignKey

/-- The foreign keys that refer to a table, with their tables: those of the newest table first,
and of one table the last declared first. -/
def Store.referencing (s : Store) (name : String) : List (Table × ForeignKey) :=
  s.tables.reverse.flatMap fun t =>
    (t.foreignKeys.reverse.filter fun fk => sameName fk.reference.table name).map (t, ·)

/-- The failure of a foreign key constraint. -/
def Fault.foreignKey : Fault := Fault.coded 787 "FOREIGN KEY constraint failed"

/-- The failure of a `restrict` action. -/
def Fault.restricted : Fault := Fault.coded 1811 "FOREIGN KEY constraint failed"

/-- The failure of a foreign key whose parent key is no key of the parent. -/
def Fault.keyMismatch (child parent : String) : Fault :=
  Fault.error s!"foreign key mismatch - \"{child}\" referencing \"{parent}\""

/-- What a write does to the rows of a table, for the checks its foreign keys need. -/
inductive KeyWrite where
  /-- Inserts rows; `single` for one row of values that no conflict resolution may replace. -/
  | insert (single : Bool)
  | update (changed : List Nat) (rowidChanged : Bool)
  | delete
  deriving Inhabited

/-- Whether a write's foreign key checks are needed at all: for an update, only when it changes
a child or a parent key. -/
def KeyWrite.needsKeys (s : Store) (t : Table) : KeyWrite → Bool
  | .update changed rowidChanged =>
    t.foreignKeys.any (·.childModified t changed rowidChanged) ||
      (s.referencing t.name).any fun (_, fk) => fk.parentModified t changed rowidChanged
  | _ => true

/-- Fails, as preparing the write does, when a foreign key it must check has no parent table or a
parent key that is a mismatch: the table's own keys first, then those that refer to it. An
update checks only the keys it changes, and always those of a table that is its own parent;
a single row inserted checks none of the keys that refer to its table unless deferred. -/
def checkForeignKeys (s : Store) (t : Table) (w : KeyWrite) : Except Fault Unit := do
  if !w.needsKeys s t then return
  for fk in t.foreignKeys.reverse do
    let relevant := match w with
      | .update changed rowidChanged =>
        sameName t.name fk.reference.table || fk.childModified t changed rowidChanged
      | _ => true
    if relevant then
      match s.table? fk.reference.table with
      | none => throw (Fault.error s!"no such table: main.{fk.reference.table}")
      | some p =>
        if (locateParentKey p fk).isNone then throw (Fault.keyMismatch t.name fk.reference.table)
  for (c, fk) in s.referencing t.name do
    let relevant := match w with
      | .update changed rowidChanged => fk.parentModified t changed rowidChanged
      | .insert single => !single || fk.reference.deferred
      | .delete => true
    if relevant && (locateParentKey t fk).isNone then
      throw (Fault.keyMismatch c.name fk.reference.table)

/-! ## Counting violations -/

/-- Adds to the violations of a foreign key: the statement's, or the transaction's for a
deferred key. -/
def countViolations (fk : ForeignKey) (k : Int) : Writing Unit :=
  modify fun st =>
    if fk.reference.deferred then { st with fkDeferred := st.fkDeferred + k }
    else { st with fkPending := st.fkPending + k }

/-- Whether any violations of the kind a foreign key counts are counted. -/
def violationsCounted (fk : ForeignKey) : Writing Bool := do
  let st ← get
  pure (if fk.reference.deferred then st.fkDeferred != 0 else st.fkPending != 0)

/-- Checks the parent of a child row for each of the given keys of its table: `incr` 1 for a
row written, which counts a violation when its parent is missing, -1 for a row removed, which
takes one away. With `single`, a row written without a parent fails at once. -/
def checkParents (child : Table) (r : Row) (incr : Int) (single : Bool) (keys : List ForeignKey) :
    Writing Unit := do
  for fk in keys do
    let store := (← get).store
    match store.table? fk.reference.table with
    | none => pure ()
    | some parent =>
      match locateParentKey parent fk with
      | none => pure ()
      | some pk =>
        let vals := (pk.childColumns fk).map (child.value r)
        let go ← if vals.any (·.isNull) then pure false
          else if incr < 0 then violationsCounted fk
          else pure true
        if go then
          let own := incr > 0 && sameName parent.name child.name && pk.selfParent child r vals
          if !own && !pk.finds parent vals then
            if single && !fk.reference.deferred then refuse .abort Fault.foreignKey
            else countViolations fk incr

/-- For each of the given keys that refer to a table, counts the child rows that refer to a row
of it: `incr` 1 for a row removed, each child row a violation, and -1 for a row added, each
mending one (only while some are counted). A row removed is never its own child. -/
def scanChildren (parent : Table) (r : Row) (incr : Int) (refs : List (Table × ForeignKey)) :
    Writing Unit := do
  for (c, fk) in refs do
    match locateParentKey parent fk with
    | none => pure ()
    | some pk =>
      let go ← if incr < 0 then violationsCounted fk else pure true
      if go then
        let child ← currentTable c.name
        let keyValues := pk.values parent r
        let self := incr > 0 && sameName child.name parent.name
        let n := child.rows.countP fun cr =>
          !(self && cr.rowid == r.rowid) && pk.refersTo fk child keyValues cr
        countViolations fk (incr * n)

end RecordMap.Sql
