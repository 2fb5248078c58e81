import RecordMap.Sql.Syntax
import RecordMap.Sql.Compare

/-!
# The content of a database

A `Store` is everything a database holds: its tables with their columns, indexes and rows, its
views and triggers, the schema table that lists them, and the pages of the file they take.

* Rows of an ordinary table are kept in rowid order, which is the order a scan visits them; a
  table declared `without rowid` keeps its rows in primary key order instead. An index is not
  stored: its entries are the rows ordered by its key and then by rowid.
* A table's indexes are listed newest first, the order in which uniqueness is checked.
* Schema entries are listed in rowid order. A new entry takes the rowid after the largest.
* Every table and index takes a root page. A new page is the first free one (see `Pages`), or
  else one past the end of the file.

Names of tables, columns and indexes match up to ASCII case.
-/

namespace RecordMap.Sql

/-- Whether two names are the same up to ASCII case. -/
def sameName (a b : String) : Bool := a.toLower == b.toLower

/-- The pages of a database file: how many there are, and the free ones as trunk pages, each
with the leaf pages it lists. Page 1 holds the schema.

A freed page becomes a leaf at the end of the first trunk while that has room for more, and
otherwise the first trunk itself. A new page is the first trunk when it lists no leaves, else its
leaf nearest to the start of the file, whose slot the last leaf then takes. -/
structure Pages where
  count : Nat
  free : List (Nat × Array Nat)
  deriving Repr, Inhabited

namespace Pages

/-- The pages of a file that holds only its schema. -/
def initial : Pages := ⟨1, []⟩

/-- How many leaves a trunk page may list before a freed page starts a new trunk. -/
def trunkRoom : Nat := 1016

/-- The place of the leaf nearest to page 1, the first of equals. -/
def nearestLeaf (leaves : Array Nat) : Nat :=
  (leaves.toList.zipIdx.foldl (fun (best : Option (Nat × Nat)) (p, i) =>
    match best with
    | some (q, _) => if p - 1 < q - 1 then some (p, i) else best
    | none => some (p, i)) none).elim 0 (·.2)

/-- Takes a page for a new table or index. -/
def allocate (p : Pages) : Nat × Pages :=
  match p.free with
  | [] => (p.count + 1, { p with count := p.count + 1 })
  | (trunk, leaves) :: rest =>
    if leaves.isEmpty then (trunk, { p with free := rest })
    else
      let i := nearestLeaf leaves
      let page := leaves.getD i 0
      let last := leaves.size - 1
      let leaves := (leaves.set! i (leaves.getD last 0)).pop
      (page, { p with free := (trunk, leaves) :: rest })

/-- Gives a page back to the free list. -/
def release (p : Pages) (page : Nat) : Pages :=
  match p.free with
  | (trunk, leaves) :: rest =>
    if leaves.size < trunkRoom then { p with free := (trunk, leaves.push page) :: rest }
    else { p with free := (page, #[]) :: p.free }
  | [] => { p with free := [(page, #[])] }

def freeCount (p : Pages) : Nat := p.free.foldl (fun n (_, l) => n + 1 + l.size) 0

end Pages

/-- A column of a table. -/
structure Column where
  name : String
  /-- The declared type as the schema shows it; empty when none. -/
  type : String
  affinity : Affinity
  /-- A `not null` constraint with its conflict resolution. -/
  notNull : Option Conflict
  /-- The default value's expression and the text it was written as. -/
  default : Option (Expr × String)
  collation : Collation
  /-- Whether the column is part of the primary key. -/
  primary : Bool
  /-- The expression of a generated column, and whether it is stored. -/
  generated : Option (Expr × Bool)
  /-- The estimated size of a value, in units of four bytes, for choosing how to scan. -/
  sizeEstimate : Nat
  deriving Inhabited

/-- What made an index. -/
inductive IndexOrigin where
  | created
  | unique
  | primaryKey
  deriving Repr, DecidableEq, Inhabited

/-- The code `pragma index_list` shows for an origin. -/
def IndexOrigin.code : IndexOrigin → String
  | .created => "c"
  | .unique => "u"
  | .primaryKey => "pk"

/-- A term of an index key: a column of the table, or an expression over its columns. -/
structure IndexTerm where
  column : Option Nat
  expr : Option Expr
  collation : Collation
  descending : Bool
  deriving Inhabited

/-- An index of a table. -/
structure Index where
  name : String
  terms : List IndexTerm
  unique : Bool
  /-- What a duplicate does, for a unique index. -/
  conflict : Conflict
  origin : IndexOrigin
  filter : Option Expr
  /-- The statement that made it; none for one a constraint made. -/
  sql : Option String
  rootpage : Nat
  deriving Inhabited

namespace Index

/-- The table columns of the key, when every term is a column. -/
def columns? (i : Index) : Option (List Nat) := i.terms.mapM (·.column)

/-- The table columns of the key, expressions left out. -/
def columnList (i : Index) : List Nat := i.terms.filterMap (·.column)

end Index

/-- A foreign key of a table. -/
structure ForeignKey where
  columns : List Nat
  reference : Reference
  deriving Inhabited

/-- A row: its rowid and its values in column order. -/
structure Row where
  rowid : Int
  values : Array Datum
  deriving Inhabited

/-- A table with its rows. -/
structure Table where
  name : String
  columns : Array Column
  /-- The column that is the rowid, if one is. -/
  rowidAlias : Option Nat
  /-- The conflict resolution of a primary key that is the rowid. -/
  keyConflict : Conflict
  autoincrement : Bool
  withoutRowid : Bool
  strict : Bool
  /-- The primary key's columns with their directions, when it is declared. -/
  primaryKey : List (Nat × Bool)
  checks : List (Expr × String)
  foreignKeys : List ForeignKey
  indexes : List Index
  sql : String
  /-- The character index in `sql` where a column added later goes. -/
  columnsEnd : Nat
  rootpage : Nat
  rows : List Row
  deriving Inhabited

/-- A view: its name, its column names when declared, its query and its statement. -/
structure View where
  name : String
  columns : List String
  query : Select
  sql : String
  deriving Inhabited

/-- An entry of the schema table. -/
structure SchemaEntry where
  rowid : Nat
  kind : String
  name : String
  table : String
  rootpage : Nat
  sql : Option String
  deriving Repr, Inhabited

/-- The content of a database. -/
structure Store where
  tables : List Table
  views : List View
  triggers : List CreateTrigger
  entries : List SchemaEntry
  pages : Pages
  /-- Counts the changes to the schema. -/
  schemaVersion : Nat
  userVersion : Int
  deriving Inhabited

def Store.empty : Store := ⟨[], [], [], [], Pages.initial, 0, 0⟩

namespace Table

/-- The position of a column, by name. -/
def columnIndex? (t : Table) (name : String) : Option Nat :=
  t.columns.toList.findIdx? (fun c => sameName c.name name)

def column (t : Table) (i : Nat) : Column := t.columns.getD i default

/-- Whether the table has a rowid that queries may name. -/
def hasRowid (t : Table) : Bool := !t.withoutRowid

/-- The value of a column in a row, the rowid for the column that is the rowid. -/
def value (t : Table) (r : Row) (i : Nat) : Datum :=
  if t.rowidAlias == some i then .integer r.rowid else r.values.getD i .null

/-- The primary key values of a row of a table without rowid, in key order. -/
def keyValues (t : Table) (r : Row) : List Datum := t.primaryKey.map fun (i, _) => r.values.getD i .null

/-- The order of rows in the table: by rowid, or by primary key for a table without rowid. -/
def compareRows (t : Table) (a b : Row) : Ordering :=
  if t.withoutRowid then
    compareRows.keys (t.primaryKey.map fun (i, d) => ((t.column i).collation, d, a.values.getD i .null,
      b.values.getD i .null))
  else compare a.rowid b.rowid
where
  keys : List (Collation × Bool × Datum × Datum) → Ordering
    | [] => .eq
    | (c, d, x, y) :: rest =>
      match compareDatum c x y with
      | .eq => keys rest
      | o => if d then o.swap else o

/-- Puts a row in its place among rows in table order. -/
def insertSorted (t : Table) (r : Row) : List Row → List Row
  | [] => [r]
  | s :: rest => if t.compareRows r s == .lt then r :: s :: rest else s :: insertSorted t r rest

/-- The table with a row added in its place. -/
def addRow (t : Table) (r : Row) : Table := { t with rows := t.insertSorted r t.rows }

/-- The table without the row of a rowid. -/
def removeRowid (t : Table) (rowid : Int) : Table :=
  { t with rows := t.rows.filter (·.rowid != rowid) }

def row? (t : Table) (rowid : Int) : Option Row := t.rows.find? (·.rowid == rowid)

/-- The largest rowid in the table, or 0 when it is empty. -/
def maxRowid (t : Table) : Int := t.rows.foldl (fun m r => max m r.rowid) 0

def index? (t : Table) (name : String) : Option Index := t.indexes.find? fun i => sameName i.name name

end Table

namespace Store

/-- The table of a name. -/
def table? (s : Store) (name : String) : Option Table :=
  s.tables.find? (fun t => sameName t.name name)

/-- The view of a name. -/
def view? (s : Store) (name : String) : Option View :=
  s.views.find? (fun v => sameName v.name name)

/-- The store with the table of that name replaced. -/
def putTable (s : Store) (t : Table) : Store :=
  { s with tables := s.tables.map fun u => if sameName u.name t.name then t else u }

/-- The store with a new table added at the end. -/
def addTable (s : Store) (t : Table) : Store := { s with tables := s.tables ++ [t] }

/-- The store without the table of that name. -/
def removeTable (s : Store) (name : String) : Store :=
  { s with tables := s.tables.filter fun t => !sameName t.name name }

/-- The table that has an index of that name, with the index. -/
def index? (s : Store) (name : String) : Option (Table × Index) :=
  s.tables.findSome? fun t => (t.index? name).map (t, ·)

/-- The rowid a new schema entry takes. -/
def nextEntryRowid (s : Store) : Nat := s.entries.foldl (fun m e => max m e.rowid) 0 + 1

/-- The store with a schema entry added. -/
def addEntry (s : Store) (kind name table : String) (rootpage : Nat) (sql : Option String) : Store :=
  { s with entries := s.entries ++ [⟨s.nextEntryRowid, kind, name, table, rootpage, sql⟩] }

/-- The store without the schema entries that `drop` selects. -/
def removeEntries (s : Store) (drop : SchemaEntry → Bool) : Store :=
  { s with entries := s.entries.filter fun e => !drop e }

/-- Takes a page for a new table or index. -/
def allocatePage (s : Store) : Nat × Store :=
  let (page, pages) := s.pages.allocate
  (page, { s with pages })

/-- Gives pages back to the free list, largest first. -/
def releasePages (s : Store) (pages : List Nat) : Store :=
  let sorted := (pages.mergeSort (fun a b => a ≥ b))
  { s with pages := sorted.foldl Pages.release s.pages }

/-- Whether any table, index, view or trigger has the name. -/
def nameTaken (s : Store) (name : String) : Bool :=
  s.entries.any fun e => sameName e.name name

end Store

end RecordMap.Sql
