import RecordMap.Sql.Planner.Estimate

/-!
# The keys a loop can search by

A loop over a stored table reaches its rows by a key: the rowid, or one of the table's indexes.
A `Probe` is such a key as the planner weighs it: the parts its entries are ordered by, how
many of them form the key proper (the rest make entries unique: the rowid, or for a table
without rowid the columns of its primary key), their collations and directions, how wide an
entry is, and how many rows a prefix of the key is taken to select when it is bound by
equalities.

Without statistics about the contents, a table is taken to hold about a million rows, one value
of the first column of an index to select about ten of them, and each further column a little
fewer; all the key of a unique index selects one row.

The probes of a table come in the order the planner considers them: the rowid first (unless
`indexed by` names an index), then the indexes, the most recently made first, except that
those whose conflict resolution is `replace` come after all others.
-/

namespace RecordMap.Sql

/-- A part of an index entry: the rowid, a column of the table, or an expression. -/
inductive KeyPart where
  | rowid
  | column (k : Nat)
  | expr
  deriving Repr, DecidableEq, Inhabited

/-- A key a loop can search a stored table by. -/
structure Probe where
  /-- The index, or none for the rowid. -/
  index : Option Index
  /-- The parts of an entry, the key's first. -/
  parts : List KeyPart
  /-- How many of the parts form the key. -/
  keyCount : Nat
  collations : List Collation
  descending : List Bool
  /-- The rows selected by the whole table (first) and by each prefix of the key. -/
  rows : List LogEst
  /-- The estimated width of an entry. -/
  width : LogEst
  unique : Bool
  /-- A unique key whose columns are all `not null`. -/
  uniqueNotNull : Bool
  /-- Whether an entry holds every column: the primary key of a table without rowid. -/
  covering : Bool
  /-- Whether it is the primary key of a table without rowid. -/
  primary : Bool
  deriving Inhabited

namespace Probe

/-- Whether the probe is the rowid itself. -/
def isRowid (p : Probe) : Bool := p.index.isNone

/-- The part at a place, read as the column it stands for: the rowid for the column that is the
rowid. -/
def partAt (p : Probe) (t : Table) (j : Nat) : KeyPart :=
  match p.parts.getD j .expr with
  | .column k => if t.rowidAlias == some k then .rowid else .column k
  | other => other

/-- The table columns the entries hold. -/
def columns (p : Probe) : List Nat :=
  p.parts.filterMap fun
    | .column k => some k
    | _ => none

end Probe

/-- The rows selected by each prefix of an index's key, when nothing is known of the contents:
ten rows for one column, a little fewer for each further column, and one for all the key of a
unique index. A partial index holds half the table. -/
def indexRows (ix : Index) (tableRows : LogEst) : List LogEst :=
  let n := ix.terms.length
  let first := max tableRows 99 - (if ix.filter.isSome then 10 else 0)
  let steps := (List.range n).map fun i => [33, 32, 30, 28, 26].getD i 23
  let steps := if ix.unique then steps.set (n - 1) 0 else steps
  first :: steps

/-- The estimated width of an index entry from its parts. -/
def entryWidth (t : Table) (parts : List KeyPart) : LogEst :=
  let w := parts.foldl (fun n p => n + match p with
    | .column k => (t.columns.getD k default).sizeEstimate
    | _ => 1) 0
  LogEst.ofNat (w * 4)

/-- The key parts of an index term. -/
def IndexTerm.part (it : IndexTerm) : KeyPart :=
  match it.column with
  | some k => .column k
  | none => .expr

/-- The primary key index of a table without rowid. -/
def Table.primaryIndex? (t : Table) : Option Index :=
  if t.withoutRowid then t.indexes.find? (·.origin == .primaryKey) else none

/-- The probe of the rowid of a table. -/
def Table.rowidProbe (_ : Table) : Probe :=
  { index := none, parts := [.rowid], keyCount := 1, collations := [.binary], descending := [false],
    rows := [defaultTableRows, 0], width := 3, unique := true, uniqueNotNull := true,
    covering := false, primary := false }

/-- The probe of an index of a table. Its entries end with the rowid, or for a table without
rowid with the columns of the primary key it does not hold already; the primary key of such a
table holds every column. -/
def Table.indexProbe (t : Table) (ix : Index) : Probe :=
  let key := ix.terms.map IndexTerm.part
  let pk := t.primaryIndex?
  let isPrimary := match pk with
    | some p => p.name == ix.name
    | none => false
  let tail : List (KeyPart × Collation × Bool) :=
    if !t.withoutRowid then [(.rowid, .binary, false)]
    else if isPrimary then
      ((List.range t.columns.size).filter fun k => !key.contains (.column k)).map
        fun k => (.column k, (t.columns.getD k default).collation, false)
    else
      match pk with
      | some p => (p.terms.filter fun it => !key.contains it.part).map
          fun it => (it.part, it.collation, it.descending)
      | none => []
  let parts := key ++ tail.map (·.1)
  let notNull (p : KeyPart) : Bool := match p with
    | .column k => (t.columns.getD k default).notNull.isSome
    | _ => false
  { index := some ix, parts, keyCount := key.length,
    collations := ix.terms.map (·.collation) ++ tail.map (·.2.1),
    descending := ix.terms.map (·.descending) ++ tail.map (·.2.2),
    rows := indexRows ix defaultTableRows, width := entryWidth t parts,
    unique := ix.unique, uniqueNotNull := ix.unique && key.all notNull,
    covering := isPrimary, primary := isPrimary }

/-- The indexes of a table in the order the planner considers them. -/
def Table.plannedIndexes (t : Table) : List Index :=
  t.indexes.filter (·.conflict != .replace) ++ t.indexes.filter (·.conflict == .replace)

/-- The probes of a table in the order the planner considers them, for a source with a hint. -/
def Table.probes (t : Table) (hint : IndexHint) : List Probe :=
  match hint with
  | .indexedBy name =>
    match t.indexes.find? (fun ix => sameName ix.name name) with
    | some ix => [t.indexProbe ix]
    | none => []
  | .notIndexed => if t.withoutRowid then t.plannedIndexes.map t.indexProbe else [t.rowidProbe]
  | .none =>
    if t.withoutRowid then t.plannedIndexes.map t.indexProbe
    else t.rowidProbe :: t.plannedIndexes.map t.indexProbe

end RecordMap.Sql
