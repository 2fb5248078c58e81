import RecordMap.Sql.Apply
import RecordMap.Sql.Parse.Cursor

/-!
# Changing the schema

`create` and `drop` of tables, indexes, views and triggers, and `alter table`. Each is checked
against the store when it is compiled, giving a `SchemaChange`, and applied when it runs; a few
failures (a unique index that existing rows break, a NOT NULL column added to a table with rows)
are only found then.

`create table` builds the table the way the engine does, constraint by constraint in the order
they are written:

* a column declared with one of the standard type names `ANY`, `BLOB`, `INT`, `INTEGER`, `REAL`
  or `TEXT`, in any case, shows that name upper-cased; any other type shows as written;
* the primary key of one column declared `INTEGER` is the rowid itself, unless the column's own
  `primary key` clause says `desc`; only it may `autoincrement`;
* any other primary key, and every `unique`, makes an index named
  `sqlite_autoindex_<table>_<n>`, numbered in the order they are made, unless an index on the
  same columns with the same collations was made before; the schema lists it without text,
  except the primary key of a table without rowid, which is the table itself;
* a table that autoincrements needs `sqlite_sequence`, which is made with the first one.

The table takes the next root page and schema entry, then its indexes in the order they were
made, then `sqlite_sequence` when it is made. Every change to the schema counts one more schema
version.
-/

namespace RecordMap.Sql

/-- The standard type names, which a column shows upper-cased. -/
def standardTypes : List String := ["ANY", "BLOB", "INT", "INTEGER", "REAL", "TEXT"]

/-- The type a column shows for the type it was declared with. -/
def shownType (declared : String) : String :=
  let up := declared.toUpper
  if standardTypes.contains up then up else declared

/-- The place after the last `char` in a type name (lower-cased), and after a `blob` followed by
a parenthesis when the type reads as bytes there, where a size may follow. The name is read as
the affinity is: up to the first `int`. -/
def sizePlace (cs : List Char) : Option Nat :=
  let rec go : List Char → Nat → Affinity → Option Nat → Option Nat
    | [], _, _, place => place
    | _ :: rest, i, aff, place =>
      let seen := (cs.take (i + 1)).drop (i + 1 - 4)
      let word := String.ofList seen
      if (String.ofList ((cs.take (i + 1)).drop (i + 1 - 3))) == "int" then place
      else if word == "char" then go rest (i + 1) .text (some (i + 1))
      else if word == "clob" || word == "text" then go rest (i + 1) .text place
      else if word == "blob" && (aff == .numeric || aff == .real) then
        go rest (i + 1) .blob (if rest.head? == some '(' then some (i + 1) else place)
      else if (word == "real" || word == "floa" || word == "doub") && aff == .numeric then
        go rest (i + 1) .real place
      else go rest (i + 1) aff place
  go cs 0 .numeric none

/-- The estimated size of a column's values, in units of four bytes, for its declared type and
affinity: one with no type, or a number type; five for the standard types `TEXT` and `BLOB`;
for other text and bytes the number after `char` (or `blob(`) over four, plus one, and five when
no such place is written. -/
def sizeEstimateOf (declared : String) (a : Affinity) : Nat :=
  if declared.isEmpty then 1
  else if standardTypes.contains declared.toUpper then
    if a == .text || a == .blob then 5 else 1
  else if a == .text || a == .blob then
    let cs := declared.toList.map Char.toLower
    match sizePlace cs with
    | some place =>
      let digits := ((cs.drop place).dropWhile (!·.isDigit)).takeWhile Char.isDigit
      let significant := digits.dropWhile (· == '0')
      let v := if significant.length > 10 then 0
        else
          let n : Nat := significant.foldl (fun n c => 10 * n + (c.toNat - 48)) 0
          if n > 2147483647 then 0 else n
      min 255 (v / 4 + 1)
    | none => 5
  else 1

/-- Whether a name is kept for the engine's own objects. -/
def isReservedName (name : String) : Bool := name.toLower.startsWith "sqlite_"

/-- Whether an expression may be a column's default: it reads no column, holds no subquery or
parameter, and calls no window function. -/
def Expr.isDefaultConstant : Nat → Expr → Bool
  | 0, _ => false
  | n + 1, e =>
    match e with
    | .literal _ | .integer .. | .float _ => true
    | .param .. => false
    | .column quals name tok _ => quals.isEmpty && isTruthWord name tok
    | .unary _ a | .isNull _ a | .cast a _ | .collate a _ _ => Expr.isDefaultConstant n a
    | .binary _ a b => Expr.isDefaultConstant n a && Expr.isDefaultConstant n b
    | .pattern _ _ a b esc =>
      Expr.isDefaultConstant n a && Expr.isDefaultConstant n b &&
        (match esc with
          | some x => Expr.isDefaultConstant n x
          | none => true)
    | .between _ a b c =>
      Expr.isDefaultConstant n a && Expr.isDefaultConstant n b && Expr.isDefaultConstant n c
    | .inList _ a items => Expr.isDefaultConstant n a && items.attach.all fun ⟨x, _⟩ => Expr.isDefaultConstant n x
    | .cases o arms els =>
      (match o with
        | some x => Expr.isDefaultConstant n x
        | none => true) &&
      arms.attach.all (fun ⟨(a, b), _⟩ => Expr.isDefaultConstant n a && Expr.isDefaultConstant n b) &&
      (match els with
        | some x => Expr.isDefaultConstant n x
        | none => true)
    | .call _ _ _ args _ _ _ overClause => overClause.isNone && args.attach.all fun ⟨x, _⟩ => Expr.isDefaultConstant n x
    | .row items _ => items.attach.all fun ⟨x, _⟩ => Expr.isDefaultConstant n x
    | _ => false

/-- A checked schema change, ready to apply. -/
inductive SchemaChange where
  /-- A table with its indexes (oldest first), made with `sqlite_sequence` when it needs it. -/
  | createTable (t : Table) (made : List Index)
  | createIndex (table : String) (index : Index)
  | createView (v : View)
  | createTrigger (c : CreateTrigger)
  | dropTable (name : String)
  | dropIndex (name : String)
  | dropView (name : String)
  | dropTrigger (name : String)
  | addColumn (table : String) (column : Column) (text : String) (checks : List (Expr × String))
  | renameTable (table : String) (name : String)
  /-- A `create … if not exists` of something that exists, or a `drop … if exists` of something
  that does not. -/
  | nothing
  deriving Inhabited

/-! ## Making a table -/

/-- A table as `create table` builds it: its columns, its rowid column and key conflict
resolution, whether it autoincrements and has a primary key, the direction of a table
constraint's key, its checks, foreign keys, and the indexes made so far, oldest first. -/
structure TableDraft where
  name : String
  columns : Array Column := #[]
  rowidAlias : Option Nat := none
  keyConflict : Conflict := .unset
  autoincrement : Bool := false
  hasKey : Bool := false
  checks : Array (Expr × String) := #[]
  foreignKeys : Array ForeignKey := #[]
  indexes : Array Index := #[]
  deriving Inhabited

namespace TableDraft

/-- The position of a column, by name. -/
def columnIndex? (d : TableDraft) (name : String) : Option Nat :=
  d.columns.toList.findIdx? fun c => sameName c.name name

/-- The draft with a column changed. -/
def mapColumn (d : TableDraft) (k : Nat) (f : Column → Column) : TableDraft :=
  { d with columns := d.columns.modify k f }

/-- Marks a column as part of the primary key. -/
def markPrimary (d : TableDraft) (k : Nat) : Except Fault TableDraft := do
  if (d.columns.getD k default).generated.isSome then
    throw (Fault.error "generated columns cannot be part of the PRIMARY KEY")
  pure (d.mapColumn k fun c => { c with primary := true })

/-- The terms of an index a constraint makes: each a column of the table, with the collation
written for it or else the column's. -/
def constraintTerms (d : TableDraft) (cols : List IndexedColumn) : Except Fault (List IndexTerm) :=
  cols.mapM fun ic =>
    match ic.name with
    | some n =>
      match d.columnIndex? n with
      | some k => do
        let coll ← match ic.collation with
          | some c => collationNamed c
          | none => pure (d.columns.getD k default).collation
        pure ⟨some k, none, coll, ic.descending⟩
      | none => throw (Fault.error s!"no such column: {n}")
    | none => throw (Fault.error "expressions prohibited in PRIMARY KEY and UNIQUE constraints")

/-- Adds the index a `unique` or `primary key` constraint makes, unless one on the same columns
with the same collations was made before: that one then takes the constraint's conflict
resolution if it has none, and becomes the primary key's. -/
def addIndex (d : TableDraft) (terms : List IndexTerm) (conflict : Conflict) (origin : IndexOrigin) :
    Except Fault TableDraft := do
  let same (i : Index) : Bool :=
    i.terms.length == terms.length &&
      (i.terms.zip terms).all fun (a, b) => a.column == b.column && a.collation == b.collation
  match d.indexes.toList.findIdx? same with
  | some k =>
    let old := d.indexes.getD k default
    if old.conflict != conflict && old.conflict != .unset && conflict != .unset then
      throw (Fault.error "conflicting ON CONFLICT clauses specified")
    let old := if old.conflict == .unset then { old with conflict } else old
    let old := if origin == .primaryKey then { old with origin } else old
    pure { d with indexes := d.indexes.set! k old }
  | none =>
    let name := s!"sqlite_autoindex_{d.name}_{d.indexes.size + 1}"
    pure { d with indexes := d.indexes.push ⟨name, terms, true, conflict, origin, none, none, 0⟩ }

/-- Declares the primary key: of the last column (`cols` none), or of the columns of a table
constraint. One column declared `INTEGER`, not descending in a column's clause, is the rowid;
any other key makes an index. -/
def addPrimaryKey (d : TableDraft) (cols : Option (List IndexedColumn)) (descending : Bool)
    (conflict : Conflict) (autoincrement : Bool) : Except Fault TableDraft := do
  if d.hasKey then throw (Fault.error s!"table \"{d.name}\" has more than one primary key")
  let d := { d with hasKey := true }
  let (d, single) ← match cols with
    | none =>
      let k := d.columns.size - 1
      let d ← d.markPrimary k
      pure (d, some k)
    | some cs => do
      let d ← cs.foldlM (fun (d : TableDraft) ic =>
        match ic.name.bind d.columnIndex? with
        | some k => d.markPrimary k
        | none => pure d) d
      let single := match cs with
        | [ic] => ic.name.bind d.columnIndex?
        | _ => none
      pure (d, single)
  let integer := match single with
    | some k => (d.columns.getD k default).type == "INTEGER"
    | none => false
  if integer && !descending then
    pure { d with rowidAlias := single, keyConflict := conflict, autoincrement }
  else if autoincrement then
    throw (Fault.error "AUTOINCREMENT is only allowed on an INTEGER PRIMARY KEY")
  else
    let terms ← match cols, single with
      | none, some k =>
        pure [⟨some k, none, (d.columns.getD k default).collation, descending⟩]
      | some cs, _ => d.constraintTerms cs
      | none, none => pure []
    d.addIndex terms conflict .primaryKey

/-- Applies a column constraint to the last column. -/
def columnConstraint (d : TableDraft) (c : ColumnConstraint) : Except Fault TableDraft := do
  let k := d.columns.size - 1
  let col := d.columns.getD k default
  match c with
  | .primaryKey desc conflict autoinc => d.addPrimaryKey none desc conflict autoinc
  | .notNull conflict => pure (d.mapColumn k fun c => { c with notNull := some conflict })
  | .nullable => pure d
  | .unique conflict =>
    d.addIndex [⟨some k, none, col.collation, false⟩] conflict .unique
  | .check e label => pure { d with checks := d.checks.push (e, label) }
  | .default e text =>
    if col.generated.isSome then throw (Fault.error "cannot use DEFAULT on a generated column")
    if !Expr.isDefaultConstant 10000 e then
      throw (Fault.error s!"default value of column [{col.name}] is not constant")
    pure (d.mapColumn k fun c => { c with default := some (e, text) })
  | .collate name => do
    let coll ← collationNamed name
    let d := d.mapColumn k fun c => { c with collation := coll }
    pure { d with indexes := d.indexes.map fun i =>
      match i.terms with
      | [t] => if t.column == some k then { i with terms := [{ t with collation := coll }] } else i
      | _ => i }
  | .references r =>
    if r.columns.length > 1 then
      throw (Fault.error s!"foreign key on {col.name} should reference only one column of table {r.table}")
    pure { d with foreignKeys := d.foreignKeys.push ⟨[k], r⟩ }
  | .generated e _ stored =>
    if col.default.isSome then throw (Fault.error s!"error in generated column \"{col.name}\"")
    if col.primary then throw (Fault.error "generated columns cannot be part of the PRIMARY KEY")
    pure (d.mapColumn k fun c => { c with generated := some (e, stored) })

/-- Adds a column definition with its constraints. -/
def addColumn (d : TableDraft) (c : ColumnDef) : Except Fault TableDraft := do
  if (d.columnIndex? c.name).isSome then throw (Fault.error s!"duplicate column name: {c.name}")
  let shown := shownType c.type
  let affinity := Affinity.ofType c.type
  let col : Column :=
    { name := c.name, type := shown, affinity, notNull := none, default := none,
      collation := .binary, primary := false, generated := none,
      sizeEstimate := sizeEstimateOf c.type affinity }
  let d := { d with columns := d.columns.push col }
  c.constraints.foldlM columnConstraint d

/-- Applies a table constraint. -/
def tableConstraint (d : TableDraft) (c : TableConstraint) : Except Fault TableDraft := do
  match c with
  | .primaryKey cols autoinc conflict _ => d.addPrimaryKey (some cols) false conflict autoinc
  | .unique cols conflict => do
    let terms ← d.constraintTerms cols
    d.addIndex terms conflict .unique
  | .check e label => pure { d with checks := d.checks.push (e, label) }
  | .foreignKey cols r => do
    if !r.columns.isEmpty && r.columns.length != cols.length then
      throw (Fault.error
        "number of columns in foreign key does not match the number of columns in the referenced table")
    let ks ← cols.mapM fun n =>
      match d.columnIndex? n with
      | some k => pure k
      | none => throw (Fault.error s!"unknown column \"{n}\" in foreign key definition")
    pure { d with foreignKeys := d.foreignKeys.push ⟨ks, r⟩ }

end TableDraft

/-- The fuel that compiling the expressions of a new table is given. -/
def defineFuel : Nat := 100000

/-- Checks that the expressions of a table compile against it: its CHECK constraints and its
generated columns. -/
def checkExpressions (s : Store) (t : Table) : Except Fault Unit := do
  let ctx := writeCtx s none [tableScope t none]
  for (e, _) in t.checks do
    let _ ← finishStep (scalarTerm ctx e)
  for c in t.columns do
    match c.generated with
    | some (e, _) => let _ ← finishStep (scalarTerm ctx e)
    | none => pure ()

/-- Checks a `create table` against a store. -/
def prepareCreateTable (s : Store) (c : CreateTable) : Except Fault SchemaChange := do
  if isReservedName c.name then
    throw (Fault.error s!"object name reserved for internal use: {c.name}")
  if (s.table? c.name).isSome || isSchemaName c.name then
    if c.ifNotExists then return .nothing
    throw (Fault.error s!"table {c.token.text} already exists")
  if (s.view? c.name).isSome then
    if c.ifNotExists then return .nothing
    throw (Fault.error s!"view {c.token.text} already exists")
  if (s.index? c.name).isSome then
    throw (Fault.error s!"there is already an index named {c.name}")
  let d ← c.columns.foldlM TableDraft.addColumn ({ name := c.name } : TableDraft)
  let d ← c.constraints.foldlM TableDraft.tableConstraint d
  -- a strict table allows only the standard types, and its key columns are NOT NULL
  let d ← if !c.strict then pure d else do
    for col in d.columns do
      if col.type.isEmpty then
        throw (Fault.error s!"missing datatype for {c.name}.{col.name}")
      if !standardTypes.contains col.type then
        throw (Fault.error s!"unknown datatype for {c.name}.{col.name}: \"{col.type}\"")
    pure { d with columns := d.columns.zipIdx.map fun (col, k) =>
      let col := if col.type == "ANY" then { col with affinity := .blob } else col
      if col.primary && d.rowidAlias != some k && col.notNull.isNone then
        { col with notNull := some .abort } else col }
  if c.withoutRowid then
    if d.autoincrement then throw (Fault.error "AUTOINCREMENT not allowed on WITHOUT ROWID tables")
    if !d.hasKey then throw (Fault.error s!"PRIMARY KEY missing on table {c.name}")
  -- a table without rowid has its integer key as an index, and its key columns NOT NULL
  let d ← if !c.withoutRowid then pure d else do
    let d ← match d.rowidAlias with
      | some k =>
        let d := { d with rowidAlias := none }
        d.addIndex [⟨some k, none, (d.columns.getD k default).collation, false⟩] d.keyConflict
          .primaryKey
      | none => pure d
    pure { d with columns := d.columns.map fun col =>
      if col.primary && col.notNull.isNone then { col with notNull := some .abort } else col }
  if !d.columns.isEmpty && d.columns.all (·.generated.isSome) then
    throw (Fault.error "must have at least one non-generated column")
  let keyIndex := d.indexes.toList.find? (·.origin == .primaryKey)
  let primaryKey := match d.rowidAlias, keyIndex with
    | some k, _ => [(k, false)]
    | none, some i => i.terms.filterMap fun it => it.column.map (·, it.descending)
    | none, none => []
  let t : Table :=
    { name := c.name, columns := d.columns, rowidAlias := d.rowidAlias,
      keyConflict := d.keyConflict, autoincrement := d.autoincrement,
      withoutRowid := c.withoutRowid, strict := c.strict, primaryKey,
      checks := d.checks.toList, foreignKeys := d.foreignKeys.toList,
      indexes := d.indexes.toList.reverse, sql := c.sql, columnsEnd := c.columnsEnd,
      rootpage := 0, rows := [] }
  checkExpressions s t
  pure (.createTable t d.indexes.toList)

/-- The type a column of a table made from a query declares for its affinity. -/
def Affinity.declared : Affinity → String
  | .text => "TEXT"
  | .numeric => "NUM"
  | .integer => "INT"
  | .real => "REAL"
  | _ => "BLOB"

/-- What follows a column's name in the statement of a table made from a query. -/
def Affinity.typeSuffix : Affinity → String
  | .text => " TEXT"
  | .numeric => " NUM"
  | .integer => " INT"
  | .real => " REAL"
  | _ => ""

/-- A name as a statement the engine writes shows it: in double quotes (doubling any inside)
when it is empty, starts with a digit, is a keyword, or holds anything but ASCII letters, digits
and underscores. -/
def shownIdent (n : String) : String :=
  let cs := n.toList
  let plain (c : Char) : Bool := (c.isAlphanum && c.toNat < 128) || c == '_'
  let needs := cs.isEmpty || (cs.headD ' ').isDigit || !cs.all plain || isKeyword n.toUpper
  if needs then "\"" ++ n.replace "\"" "\"\"" ++ "\"" else n

/-- The statement of a table made from a query: its name and each column with the type of its
affinity, on one line when short, else a column to a line. -/
def madeTableText (name : String) (cols : List (String × Affinity)) : String :=
  let identLength (n : String) : Nat := n.utf8ByteSize + (n.toList.filter (· == '"')).length + 2
  let size := cols.foldl (fun k (c, _) => k + identLength c + 5) 0 + identLength name
  let (first, sep, close) := if size < 50 then ("", ",", ")") else ("\n  ", ",\n  ", "\n)")
  let body := cols.map fun (c, a) => shownIdent c ++ a.typeSuffix
  "CREATE TABLE " ++ shownIdent name ++ "(" ++ first ++ sep.intercalate body ++ close

/-- The left-most core of a compound, when it is a `select`. -/
def CompoundPlan.leftmostSelect : CompoundPlan → Option SelectPlan
  | .core (.select s) => some s
  | .core (.values _) => none
  | .join _ l _ _ => l.leftmostSelect

/-- The type result column `i` of a query declares when it is a column of a stored table, or of
a subquery whose result column is one: the table column's type, `INTEGER` for the rowid. -/
def declaredTypeOf (s : Store) : Nat → QueryPlan → Nat → Option String
  | 0, _, _ => none
  | n + 1, q, i =>
    match q.body.leftmostSelect with
    | none => none
    | some sel =>
      match sel.results[i]? with
      | some (.column ⟨0, src, col⟩) =>
        match sel.sources[src]?, col with
        | some (.table _), none => some "INTEGER"
        | some (.table name), some k =>
          (s.table? name).bind fun t =>
            let ty := (t.column k).type
            if ty.isEmpty then none else some ty
        | some (.query inner), some k => declaredTypeOf s n inner k
        | _, _ => none
      | _ => none

/-- Checks a `create table … as` against a store: the table it makes, with a column for each
result column of the query (named as a subquery's columns are, with the query's affinity, or
none, and collation), and the compiled query whose rows fill it; none when the table exists and
`if not exists` is given. -/
def prepareCreateTableAs (s : Store) (ifNotExists : Bool) (name : String) (tok : Token) (q : Select) :
    Except Fault (Option (Table × QueryPlan)) := do
  if isReservedName name then
    throw (Fault.error s!"object name reserved for internal use: {name}")
  if (s.table? name).isSome || isSchemaName name then
    if ifNotExists then return none
    throw (Fault.error s!"table {tok.text} already exists")
  if (s.view? name).isSome then
    if ifNotExists then return none
    throw (Fault.error s!"view {tok.text} already exists")
  if (s.index? name).isSome then
    throw (Fault.error s!"there is already an index named {name}")
  let out ← compileQuery s q
  let named := namedColumnsOf out.columns []
  let columns := named.zipIdx.map fun (c, i) =>
    let aff := if c.affinity == .none then .blob else c.affinity
    -- a column keeps the type it is declared with when that gives its affinity
    let type := match declaredTypeOf s 16 out.plan i with
      | some ty => if Affinity.ofType ty == aff then ty else aff.declared
      | none => aff.declared
    ({ name := c.name, type, affinity := aff, notNull := none, default := none,
       collation := c.collation, primary := false, generated := none,
       sizeEstimate := sizeEstimateOf type aff } : Column)
  let sql := madeTableText name (columns.map fun c => (c.name, c.affinity))
  let t : Table :=
    { name, columns := columns.toArray, rowidAlias := none, keyConflict := .unset,
      autoincrement := false, withoutRowid := false, strict := false, primaryKey := [],
      checks := [], foreignKeys := [], indexes := [], sql,
      columnsEnd := sql.length - (if sql.endsWith "\n)" then 2 else 1), rootpage := 0, rows := [] }
  pure (some (t, out.plan))

/-- The table `sqlite_sequence`, which records the largest rowid of each autoincrement table. -/
def sequenceTable : Table :=
  let col (n : String) : Column :=
    { name := n, type := "", affinity := .blob, notNull := none, default := none,
      collation := .binary, primary := false, generated := none, sizeEstimate := 1 }
  { name := "sqlite_sequence", columns := #[col "name", col "seq"], rowidAlias := none,
    keyConflict := .unset, autoincrement := false, withoutRowid := false, strict := false,
    primaryKey := [], checks := [], foreignKeys := [], indexes := [],
    sql := "CREATE TABLE sqlite_sequence(name,seq)", columnsEnd := 37, rootpage := 0, rows := [] }

/-! ## Indexes, views and triggers -/

/-- The terms of a `create index` compiled against its table: a column, or an expression. -/
def indexTerms (s : Store) (t : Table) (cols : List IndexedColumn) : Except Fault (List IndexTerm) := do
  let ctx := writeCtx s none [tableScope t none]
  cols.mapM fun ic => do
    let (bare, _) := ic.expr.stripCollate
    let bare := match bare with
      | .literal (.text b) => Expr.column [] (textOf b) default false
      | e => e
    let term ← finishStep (scalarTerm ctx bare)
    let column := match term with
      | .column ⟨0, 0, some k⟩ => some k
      | .column ⟨0, 0, none⟩ => t.rowidAlias
      | _ => none
    let coll ← match ic.collation with
      | some c => collationNamed c
      | none =>
        match column with
        | some k => pure (t.column k).collation
        | none => pure .binary
    pure ⟨column, if column.isSome then none else some bare, coll, ic.descending⟩

/-- Checks a `create index` against a store. -/
def prepareCreateIndex (s : Store) (c : CreateIndex) : Except Fault SchemaChange := do
  let t ← match s.table? c.table with
    | some t => pure t
    | none =>
      if isSchemaName c.table then throw (Fault.error "table sqlite_master may not be indexed")
      else match s.view? c.table with
        | some _ => throw (Fault.error "views may not be indexed")
        | none => throw (Fault.error s!"no such table: main.{c.table}")
  if isReservedName t.name then throw (Fault.error s!"table {t.name} may not be indexed")
  if isReservedName c.name then
    throw (Fault.error s!"object name reserved for internal use: {c.name}")
  if (s.table? c.name).isSome || (s.view? c.name).isSome then
    throw (Fault.error s!"there is already a table named {c.name}")
  if (s.index? c.name).isSome then
    if c.ifNotExists then return .nothing
    throw (Fault.error s!"index {c.name} already exists")
  if let some f := c.filter then
    let _ ← finishStep (scalarTerm (writeCtx s none [tableScope t none]) f)
  let terms ← indexTerms s t c.columns
  pure (.createIndex t.name ⟨c.name, terms, c.unique, if c.unique then .abort else .unset,
    .created, c.filter, some c.sql, 0⟩)

/-- Checks a `create view` against a store. -/
def prepareCreateView (s : Store) (ifNotExists : Bool) (name : String) (tok : Token)
    (columns : List String) (q : Select) (sql : String) : Except Fault SchemaChange := do
  if isReservedName name then throw (Fault.error s!"object name reserved for internal use: {name}")
  if (s.table? name).isSome || isSchemaName name then
    if ifNotExists then return .nothing
    throw (Fault.error s!"table {tok.text} already exists")
  if (s.view? name).isSome then
    if ifNotExists then return .nothing
    throw (Fault.error s!"view {tok.text} already exists")
  if (s.index? name).isSome then throw (Fault.error s!"there is already an index named {name}")
  pure (.createView ⟨name, columns, q, sql⟩)

/-- Checks a `create trigger` against a store. -/
def prepareCreateTrigger (s : Store) (c : CreateTrigger) : Except Fault SchemaChange := do
  if isReservedName c.name then
    throw (Fault.error s!"object name reserved for internal use: {c.name}")
  let isView := (s.view? c.table).isSome
  if (s.table? c.table).isNone && !isView then
    throw (Fault.error s!"no such table: main.{c.table}")
  if isReservedName c.table || isSchemaName c.table then
    throw (Fault.error "cannot create trigger on system table")
  if s.triggers.any (sameName ·.name c.name) then
    if c.ifNotExists then return .nothing
    throw (Fault.error s!"trigger {c.name} already exists")
  if isView && c.time != .insteadOf then
    let word := if c.time == .before then "BEFORE" else "AFTER"
    throw (Fault.error s!"cannot create {word} trigger on view: {c.table}")
  if !isView && c.time == .insteadOf then
    throw (Fault.error s!"cannot create INSTEAD OF trigger on table: {c.table}")
  pure (.createTrigger c)

/-- Checks a `drop` against a store. -/
def prepareDrop (s : Store) (kind : ObjectKind) (ifExists : Bool) (name : String) :
    Except Fault SchemaChange := do
  match kind with
  | .table | .view =>
    let word := if kind == .table then "table" else "view"
    if isSchemaName name then throw (Fault.error "table sqlite_master may not be dropped")
    match s.table? name, s.view? name with
    | some t, _ =>
      if isReservedName t.name && !(t.name.toLower.drop 7).startsWith "stat" then
        throw (Fault.error s!"table {t.name} may not be dropped")
      if kind == .view then throw (Fault.error s!"use DROP TABLE to delete table {t.name}")
      pure (.dropTable t.name)
    | none, some v =>
      if kind == .table then throw (Fault.error s!"use DROP VIEW to delete view {v.name}")
      pure (.dropView v.name)
    | none, none => if ifExists then pure .nothing else throw (Fault.error s!"no such {word}: {name}")
  | .index =>
    match s.index? name with
    | some (_, i) =>
      if i.origin != .created then
        throw (Fault.error "index associated with UNIQUE or PRIMARY KEY constraint cannot be dropped")
      pure (.dropIndex i.name)
    | none => if ifExists then pure .nothing else throw (Fault.error s!"no such index: {name}")
  | .trigger =>
    match s.triggers.find? (sameName ·.name name) with
    | some t => pure (.dropTrigger t.name)
    | none => if ifExists then pure .nothing else throw (Fault.error s!"no such trigger: {name}")

/-- Checks an `alter table` against a store. -/
def prepareAlter (s : Store) (table : String) (action : AlterAction) : Except Fault SchemaChange := do
  let t ← match s.table? table with
    | some t => pure t
    | none =>
      if (s.view? table).isSome then
        match action with
        | .addColumn .. => throw (Fault.error "Cannot add a column to a view")
        | _ => throw (Fault.error s!"view {table} may not be altered")
      else throw (Fault.error s!"no such table: {table}")
  if isReservedName t.name then throw (Fault.error s!"table {t.name} may not be altered")
  match action with
  | .addColumn d text =>
    let draft : TableDraft :=
      { name := t.name, columns := t.columns, rowidAlias := t.rowidAlias, hasKey := false }
    let before := draft.indexes.size
    let draft ← draft.addColumn d
    let col := draft.columns.getD (draft.columns.size - 1) default
    if col.primary || d.constraints.any (fun c => match c with
        | .primaryKey .. => true
        | _ => false) then
      throw (Fault.error "Cannot add a PRIMARY KEY column")
    if draft.indexes.size > before then throw (Fault.error "Cannot add a UNIQUE column")
    match col.generated with
    | some (_, true) => throw (Fault.error "cannot add a STORED column")
    | _ => pure ()
    pure (.addColumn t.name col text (draft.checks.toList))
  | .renameTo name =>
    if (s.table? name).isSome || (s.view? name).isSome || (s.index? name).isSome then
      throw (Fault.error s!"there is already another table or index with this name: {name}")
    if isReservedName name then
      throw (Fault.error s!"object name reserved for internal use: {name}")
    pure (.renameTable t.name name)
  | .renameColumn old _ _ =>
    match t.columnIndex? old with
    | some _ => throw (Fault.error "renaming a column is not supported")
    | none => throw (Fault.error s!"no such column: \"{old}\"")
  | .dropColumn name _ =>
    match t.columnIndex? name with
    | some _ => throw (Fault.error "dropping a column is not supported")
    | none => throw (Fault.error s!"no such column: \"{name}\"")

/-! ## Applying -/

/-- The text of a table's statement with a column definition added where columns end. -/
def withColumnText (sql : String) (place : Nat) (text : String) : String :=
  let cs := sql.toList
  String.ofList (cs.take place) ++ ", " ++ text ++ String.ofList (cs.drop place)

/-- The text of a table's statement with its name replaced: written bare when the old name was,
else in double quotes. -/
def renamedText (sql : String) (name : String) : String :=
  let cs := sql.toList
  let head := "CREATE TABLE ".length
  let rest := cs.drop head
  let quoted := match rest with
    | c :: _ => c == '"' || c == '`' || c == '['
    | [] => false
  let nameLen := if quoted then
      match rest with
      | q :: more =>
        let closer := if q == '[' then ']' else q
        (more.takeWhile (· != closer)).length + 2
      | [] => 0
    else (rest.takeWhile isWordChar).length
  let shown := if quoted then "\"" ++ name.replace "\"" "\"\"" ++ "\"" else name
  String.ofList (cs.take head) ++ shown ++ String.ofList (rest.drop nameLen)

/-- The rows of a table the condition of a partial index holds for, with their keys. -/
def indexedRows (s : Store) (t : Table) (i : Index) : Except Fault (List (List Datum)) := do
  let rules ← compileRules s t
  let rule : IndexRule := (rules.indexes.find? (sameName ·.index.name i.name)).getD
    ⟨i, [], none⟩
  let env : Env := { store := s, params := #[], call := {} }
  t.rows.filterMapM fun r => do
    let frames : List LevelRow := [{ cursors := #[t.cursor r] }]
    let keep ← match rule.filter with
      | some f => do
        let v ← Term.eval writeFuel env frames f
        pure v.passes
      | none => pure true
    if keep then
      let key ← rule.keys.mapM (Term.eval writeFuel env frames)
      pure (some key)
    else pure none

/-- Applies a checked schema change to a store. -/
def SchemaChange.apply (c : SchemaChange) (s : Store) : Except Fault Store := do
  match c with
  | .nothing => pure s
  | .createTable t made =>
    let (page, s) := s.allocatePage
    let entry := s.nextEntryRowid
    let s := { s with entries := s.entries ++ [⟨entry, "table", t.name, t.name, page, some t.sql⟩] }
    let (s, pages) := made.foldl (fun (acc : Store × List (String × Nat)) i =>
      if t.withoutRowid && i.origin == .primaryKey then (acc.1, acc.2 ++ [(i.name, page)])
      else
        let (p, s) := acc.1.allocatePage
        (s.addEntry "index" i.name t.name p none, acc.2 ++ [(i.name, p)])) (s, [])
    let indexes := t.indexes.map fun i =>
      { i with rootpage := ((pages.find? (·.1 == i.name)).map (·.2)).getD 0 }
    let s := s.addTable { t with rootpage := page, indexes }
    let s := if t.autoincrement && (s.table? "sqlite_sequence").isNone then
        let (p, s) := s.allocatePage
        (s.addTable { sequenceTable with rootpage := p }).addEntry "table" "sqlite_sequence"
          "sqlite_sequence" p (some sequenceTable.sql)
      else s
    pure { s with schemaVersion := s.schemaVersion + 1 }
  | .createIndex name i => do
    let t ← match s.table? name with
      | some t => pure t
      | none => throw (Fault.error s!"no such table: {name}")
    if i.unique then
      let keys ← indexedRows s { t with indexes := i :: t.indexes } i
      let colls := i.terms.map (·.collation)
      let clash := keys.zipIdx.any fun (k, j) =>
        !(k.any (·.isNull)) && (keys.take j).any fun q =>
          (colls.zip (q.zip k)).all fun (c, a, b) => compareDatum c a b == .eq
      if clash then throw (uniqueFault t i)
    let (page, s) := s.allocatePage
    let s := s.putTable { t with indexes := { i with rootpage := page } :: t.indexes }
    let s := s.addEntry "index" i.name t.name page i.sql
    pure { s with schemaVersion := s.schemaVersion + 1 }
  | .createView v =>
    let s := { s with views := s.views ++ [v] }
    let s := s.addEntry "view" v.name v.name 0 (some v.sql)
    pure { s with schemaVersion := s.schemaVersion + 1 }
  | .createTrigger tr =>
    let s := { s with triggers := s.triggers ++ [tr] }
    let s := s.addEntry "trigger" tr.name tr.table 0 (some tr.sql)
    pure { s with schemaVersion := s.schemaVersion + 1 }
  | .dropTable name =>
    match s.table? name with
    | none => pure s
    | some t =>
      let s := if t.autoincrement then
          match s.table? "sqlite_sequence" with
          | some q => s.putTable { q with rows := q.rows.filter fun r => !r.isSequenceOf t.name }
          | none => s
        else s
      let triggers := s.triggers.filter fun tr => sameName tr.table t.name
      let s := s.removeEntries fun e =>
        (sameName e.table t.name && e.kind != "trigger") ||
          (e.kind == "trigger" && triggers.any (sameName ·.name e.name))
      let pages := (t.rootpage :: t.indexes.map (·.rootpage)).filter (· > 0)
      let s := s.releasePages pages
      let s := { s.removeTable t.name with
        triggers := s.triggers.filter fun tr => !sameName tr.table t.name }
      pure { s with schemaVersion := s.schemaVersion + 1 }
  | .dropIndex name =>
    match s.index? name with
    | some (t, i) =>
      let s := s.putTable { t with indexes := t.indexes.filter fun j => !sameName j.name name }
      let s := s.removeEntries fun e => e.kind == "index" && sameName e.name name
      let s := s.releasePages [i.rootpage]
      pure { s with schemaVersion := s.schemaVersion + 1 }
    | none => pure s
  | .dropView name =>
    let s := { s with views := s.views.filter fun v => !sameName v.name name }
    let s := s.removeEntries fun e => e.kind == "view" && sameName e.name name
    pure { s with schemaVersion := s.schemaVersion + 1 }
  | .dropTrigger name =>
    let s := { s with triggers := s.triggers.filter fun tr => !sameName tr.name name }
    let s := s.removeEntries fun e => e.kind == "trigger" && sameName e.name name
    pure { s with schemaVersion := s.schemaVersion + 1 }
  | .addColumn name col text checks => do
    let t ← match s.table? name with
      | some t => pure t
      | none => throw (Fault.error s!"no such table: {name}")
    let plainDefault := match col.default with
      | some (.literal .null, _) => none
      | d => d
    if col.notNull.isSome && plainDefault.isNone && col.generated.isNone && !t.rows.isEmpty then
      throw (Fault.coded 1 "Cannot add a NOT NULL column with default value NULL")
    let value ← match col.default with
      | some (e, _) => do
        let term ← finishStep (scalarTerm (writeCtx s none []) e)
        let v ← Term.eval writeFuel { store := s, params := #[], call := {} } [] term
        pure (col.store v)
      | none => pure .null
    let sql := withColumnText t.sql t.columnsEnd text
    let t := { t with columns := t.columns.push col, sql,
                      columnsEnd := t.columnsEnd + 2 + text.length,
                      checks := t.checks ++ checks,
                      rows := t.rows.map fun r => { r with values := r.values.push value } }
    let s := s.putTable t
    let setSql (e : SchemaEntry) : SchemaEntry :=
      if e.kind == "table" && sameName e.name name then { e with sql := some sql } else e
    let s := { s with entries := s.entries.map setSql }
    pure { s with schemaVersion := s.schemaVersion + 1 }
  | .renameTable old new =>
    match s.table? old with
    | none => pure s
    | some t =>
      let sql := renamedText t.sql new
      let rename (n : String) : String :=
        let stem := s!"sqlite_autoindex_{t.name}_"
        if n.startsWith stem then s!"sqlite_autoindex_{new}_" ++ (n.drop stem.length).toString
        else n
      let renameIndex (i : Index) : Index := { i with name := rename i.name }
      let t2 := { t with name := new, sql, indexes := t.indexes.map renameIndex }
      let swap (u : Table) : Table := if sameName u.name old then t2 else u
      let s := { s with tables := s.tables.map swap }
      let moveEntry (e : SchemaEntry) : SchemaEntry :=
        if sameName e.table old then
          { e with table := new, name := if e.kind == "table" then new else rename e.name,
                   sql := if e.kind == "table" then some sql else e.sql }
        else e
      let moveTrigger (tr : CreateTrigger) : CreateTrigger :=
        if sameName tr.table old then { tr with table := new } else tr
      let s := { s with entries := s.entries.map moveEntry, triggers := s.triggers.map moveTrigger }
      let moveRow (r : Row) : Row :=
        if r.isSequenceOf t.name then { r with values := r.values.set! 0 (.text (bytesOf new)) }
        else r
      let s := match s.table? "sqlite_sequence" with
        | some q => s.putTable { q with rows := q.rows.map moveRow }
        | none => s
      pure { s with schemaVersion := s.schemaVersion + 1 }

end RecordMap.Sql
