import RecordMap.Sql.Eval
import RecordMap.Sql.Resolve

/-!
# Writing rows

`insert`, `update` and `delete`: compiled against a store into a `WritePlan`, then run on it.

A row to write is made whole first: each column takes the value given for it, else its default,
and then a rowid (the one given, which must be an integer, or one past the largest, or for an
`autoincrement` table past the largest it ever had, as `sqlite_sequence` keeps it). The row is
then checked against the table's constraints in the engine's order:

1. NOT NULL, column by column, in two passes: a NULL in a column whose conflict resolution is
   `replace` takes the column's default in the first pass, and fails in the second if that is
   NULL too;
2. the column affinities, and the types of a `strict` table;
3. the CHECK constraints, in the order they were declared;
4. uniqueness: of the rowid and of each unique index, in the order of the table's index list,
   except that the indexes an `on conflict` clause names come first, and that a rowid whose
   conflict resolution is `replace` is checked last.

A failed constraint aborts the statement, or fails it keeping the rows written so far, or rolls
the transaction back, or skips the row (`ignore`), or deletes the rows in the way (`replace`);
the statement's `or` clause decides for every constraint, else the constraint's own clause. An
`on conflict` clause decides for the uniqueness checks it names: `do nothing` skips the row, and
`do update` updates the row in the way instead, reading the refused row as `excluded`.

An `update` finds its rows first, and then updates each in turn as it stands when reached, so
that a later row's checks see the earlier rows' new values. The `returning` clause gives the
values of each row written, as it was written, or of each row deleted.
-/

namespace RecordMap.Sql

open RecordMap.Numeral

/-! ## Compiled writes -/

/-- Compiled assignments: each assigned column with the term of its new value, in column order
(the last assignment to a column wins), and the term of the new rowid when it is assigned. -/
structure Assigned where
  columns : List (Nat × Term)
  rowid : Option Term
  deriving Inhabited

/-- A CHECK constraint compiled against its table: its condition, the label its failure
reports, and the columns it reads (none for the rowid). -/
structure CheckRule where
  term : Term
  label : String
  reads : List (Option Nat)
  deriving Inhabited

/-- An index compiled against its table: the terms of its key and its condition. -/
structure IndexRule where
  index : Index
  keys : List Term
  filter : Option Term
  deriving Inhabited

/-- What writing rows of a table evaluates besides the statement's own terms: each column's
default, each generated column's expression, the CHECK constraints and the indexes. Terms read
the row being written as source 0. -/
structure RowRules where
  defaults : Array (Option Term)
  generated : Array (Option Term)
  checks : List CheckRule
  indexes : List IndexRule
  deriving Inhabited

/-- The uniqueness failures an `on conflict` clause catches: of the rowid, of a unique index, or,
with no target, any. -/
inductive Catch where
  | rowid
  | index (name : String)
  | any
  deriving Inhabited

/-- Whether a clause that catches `c` catches the failure of `d`. -/
def Catch.covers : Catch → Catch → Bool
  | .any, _ => true
  | .rowid, .rowid => true
  | .index a, .index b => sameName a b
  | _, _ => false

/-- A compiled `on conflict` clause: what it catches, and its update (none for `do nothing`),
whose terms read the row in the way as source 0 and the refused row as source 1. -/
structure UpsertPlan where
  catches : Catch
  update : Option (Assigned × Option Term)
  deriving Inhabited

/-- Where the rows of an `insert` come from: one row of values, evaluated in the order of the
columns they go to; several rows of values, each evaluated just before it is written; a query
run before the first row is written; or one row of defaults. -/
inductive RowSource where
  | single (terms : List Term)
  | rows (rows : List (List Term))
  | query (plan : QueryPlan)
  | defaults
  deriving Inhabited

/-- A compiled `insert`: for each column the place of the value given for it, the place of the
value given for the rowid, where the values come from, the `on conflict` clauses and the
`returning` terms. -/
structure InsertPlan where
  table : String
  conflict : Conflict
  places : Array (Option Nat)
  rowidPlace : Option Nat
  source : RowSource
  upserts : List UpsertPlan
  returning : List Term
  rules : RowRules
  deriving Inhabited

/-- A compiled `update`. With a `from` clause, a query joins the table to its sources and gives,
for each row to update, the row's identity (its rowid, or its primary key) and then the new
values, which the assignments read as source 1. -/
structure UpdatePlan where
  table : String
  conflict : Conflict
  assigned : Assigned
  filter : Option Term
  returning : List Term
  rules : RowRules
  source : Option (QueryPlan × Nat) := none
  deriving Inhabited

/-- A compiled `delete`. -/
structure DeletePlan where
  table : String
  filter : Option Term
  returning : List Term
  deriving Inhabited

/-- A compiled write statement. -/
inductive WritePlan where
  | insert (p : InsertPlan)
  | update (p : UpdatePlan)
  | delete (p : DeletePlan)
  deriving Inhabited

/-- The table a write statement writes. -/
def WritePlan.table : WritePlan → String
  | .insert p => p.table
  | .update p => p.table
  | .delete p => p.table

/-! ## Compiling -/

/-- Runs one step of compiling a statement, reporting a failure that only generating its code
would find once the step otherwise compiles. -/
def finishStep {α : Type} (x : Resolve α) : Except Fault α := do
  let (a, st) ← x.run {}
  match st.late with
  | some f => throw f
  | none => pure a

/-- The common table expressions of a statement's `with` clause, as compiling sees them. -/
def cteDefs : Option With → List CteDef
  | some w => (w.ctes.map fun c => CteDef.mk c.name c.columns c.query w.ctes.length).reverse
  | none => []

/-- The context the expressions of a write are compiled in: one scope with the given sources,
where aggregates and windows may not stand. -/
def writeCtx (store : Store) (ctes : Option With) (sources : List ScopeSource) : Ctx :=
  { store, scopes := [⟨sources, [], .refused, false⟩], ctes := cteDefs ctes, expanding := [],
    working := [] }

/-- The context a statement of a trigger program is compiled in: its own sources, and outside
them the scopes of the trigger (its `new` and `old` rows), where `raise` may stand. With no
outer scopes it is the context of a statement of its own. -/
def stepCtx (store : Store) (ctes : Option With) (sources : List ScopeSource) (outer : List Scope) : Ctx :=
  { writeCtx store ctes sources with
    scopes := ⟨sources, [], .refused, false⟩ :: outer, trigger := !outer.isEmpty }

/-- Compiles an expression that must give one value. -/
def scalarTerm (ctx : Ctx) (e : Expr) : Resolve Term := do
  let (t, i) ← expr compileFuel ctx e
  needScalar e i
  pure t

/-- The table a write names: not the schema table, and not a view. -/
def writeTable (s : Store) (name : String) : Except Fault Table :=
  if isSchemaName name then throw (Fault.error "table sqlite_master may not be modified")
  else
    match s.table? name with
    | some t => pure t
    | none =>
      match s.view? name with
      | some v => throw (Fault.error s!"cannot modify {v.name} because it is a view")
      | none => throw (Fault.error s!"no such table: {name}")

/-- Fails for an `indexed by` that names no index of the table. -/
def checkHint (t : Table) : IndexHint → Except Fault Unit
  | .indexedBy name =>
    if (t.index? name).isSome then pure () else throw (Fault.error s!"no such index: {name}")
  | _ => pure ()

/-- The term that reads column `k` of the row being written: the rowid for the column that is
the rowid. -/
def Table.columnRef (t : Table) (k : Nat) : Term :=
  .column ⟨0, 0, if t.rowidAlias == some k then none else some k⟩

/-- Compiles what writing rows of a table evaluates besides the statement's own terms. -/
def compileRules (store : Store) (t : Table) : Except Fault RowRules := do
  let own := writeCtx store none [tableScope t none]
  let bare := writeCtx store none []
  let defaults ← t.columns.mapM fun c =>
    match c.default with
    | some (e, _) => (finishStep (scalarTerm bare e)).map some
    | none => pure none
  let generated ← t.columns.mapM fun c =>
    match c.generated with
    | some (e, _) => (finishStep (scalarTerm own e)).map some
    | none => pure none
  let checks ← t.checks.mapM fun (e, label) => do
    let term ← finishStep (scalarTerm own e)
    pure (CheckRule.mk term label ((term.reads walkFuel 0).map (·.2)).eraseDups)
  let indexes ← t.indexes.mapM fun ix => do
    let keys ← ix.terms.mapM fun it =>
      match it.column, it.expr with
      | some k, _ => pure (t.columnRef k)
      | none, some e => finishStep (scalarTerm own e)
      | none, none => pure (Term.value .null)
    let filter ← ix.filter.mapM fun e => finishStep (scalarTerm own e)
    pure (IndexRule.mk ix keys filter)
  pure ⟨defaults, generated, checks, indexes⟩

/-- The number of values an expression assigns: the items of a row, the result columns of a
subquery, else one. -/
def assignedWidth (e : Expr) : Nat := e.width

/-- Fails when an assignment to several columns is given a different number of values. -/
def checkAssignmentWidths (sets : List Assignment) : Except Fault Unit :=
  sets.forM fun a =>
    if a.columns.length > 1 && assignedWidth a.value != a.columns.length then
      throw (Fault.error s!"{a.columns.length} columns assigned {assignedWidth a.value} values")
    else pure ()

/-- A query plan that gives only result column `k` of a plan whose body is one `select` core. -/
def QueryPlan.onlyColumn (q : QueryPlan) (k : Nat) : QueryPlan :=
  match q.body with
  | .core (.select s) =>
    { q with body := .core (.select { s with results := [s.results.getD k default] }), width := 1 }
  | _ => q

/-- Compiles the value an assignment gives each of its columns, with the column's name. -/
def assignmentTerms (ctx : Ctx) (a : Assignment) : Resolve (List (String × Term)) :=
  match a.columns, a.value with
  | [(c, _)], e => do
    let t ← scalarTerm ctx e
    pure [(c, t)]
  | cols, .row items _ =>
    (cols.zip items).mapM fun ((c, _), e) => do
      let t ← scalarTerm ctx e
      pure (c, t)
  | cols, .subquery q _ => do
    let (t, _) ← expr compileFuel ctx (.subquery q default)
    match t with
    | .scalar plan =>
      pure (cols.zipIdx.map fun ((c, _), k) => (c, Term.scalar (plan.onlyColumn k)))
    | other => pure (cols.map fun (c, _) => (c, other))
  | cols, e => do
    let t ← scalarTerm ctx e
    pure (cols.map fun (c, _) => (c, t))

/-- Compiles the assignments of an `update` or an upsert: each value, then the column it goes
to, in the order written. -/
def compileAssignments (ctx : Ctx) (t : Table) (sets : List Assignment) : Resolve Assigned := do
  let mut byColumn : List (Nat × Term) := []
  let mut rowid : Option Term := none
  for a in sets do
    let pairs ← assignmentTerms ctx a
    for (c, term) in pairs do
      match t.columnIndex? c with
      | some k =>
        if (t.column k).generated.isSome then
          throw (Fault.error s!"cannot UPDATE generated column \"{(t.column k).name}\"")
        if t.rowidAlias == some k then rowid := some term
        else byColumn := (k, term) :: byColumn.filter (·.1 != k)
      | none =>
        if isRowidName c && !t.withoutRowid then rowid := some term
        else throw (Fault.error s!"no such column: {c}")
  pure ⟨byColumn.mergeSort (fun a b => a.1 ≤ b.1), rowid⟩

/-- Compiles a `returning` clause against the table written: its terms and column names. -/
def compileReturning (store : Store) (t : Table) (cols : List ResultColumn) :
    Except Fault (List Term × List String) := do
  if cols.isEmpty then return ([], [])
  let scope := tableScope t none
  let ctx := writeCtx store none [scope]
  let items ← finishStep (resultItems compileFuel ctx [scope] cols)
  pure (items.map (·.term), (columnsOf [items]).map (·.name))

/-- The column a term of an `on conflict` target names, with the collation written for it. -/
def targetTerm (ctx : Ctx) (st : SortTerm) : Resolve (Term × Option String) := do
  let (e, coll) := st.expr.stripCollate
  let t ← scalarTerm ctx e
  pure (t, coll)

/-- Whether the terms of an `on conflict` target are the key of an index: as many, and each term
of the key among them, with the key's collation when one is written. -/
def targetMatches (terms : List (Term × Option String)) (rule : IndexRule) : Bool :=
  rule.index.unique && terms.length == rule.keys.length &&
    (rule.keys.zip rule.index.terms).all fun (key, it) =>
      terms.any fun (t, coll) =>
        Term.same 64 t key &&
          match coll with
          | some c => sameName c it.collation.name
          | none => true

/-- Finds what the target of the `on conflict` clause at place `k` of `count` names: the rowid,
or the first unique index whose key it is. -/
def analyzeTarget (ctx : Ctx) (t : Table) (rules : RowRules) (target : List SortTerm × Option Expr)
    (k count : Nat) : Resolve Catch := do
  let (terms, cond) := target
  let compiled ← terms.mapM (targetTerm ctx)
  let condTerm ← cond.mapM (scalarTerm ctx)
  let isRowid := match compiled with
    | [(.column ⟨0, 0, none⟩, none)] => !t.withoutRowid
    | _ => false
  if isRowid then return .rowid
  let sameCond (rule : IndexRule) : Bool :=
    match rule.filter, condTerm with
    | none, _ => true
    | some f, some c => Term.same 64 f c
    | some _, none => false
  match rules.indexes.find? fun rule => sameCond rule && targetMatches compiled rule with
  | some rule => pure (.index rule.index.name)
  | none =>
    let which := if k == 0 && count == 1 then "" else ordinal (k + 1) ++ " "
    throw (Fault.error
      s!"{which}ON CONFLICT clause does not match any PRIMARY KEY or UNIQUE constraint")

/-- Fails for a `nulls first` or `nulls last` in the target of an `on conflict` clause. -/
def checkTargetNulls : List Upsert → Except Fault Unit
  | u :: _ =>
    match u.target with
    | some (terms, _) =>
      match terms.find? (·.nullsFirst.isSome) with
      | some st =>
        let word := if st.nullsFirst == some true then "FIRST" else "LAST"
        throw (Fault.error s!"unsupported use of NULLS {word}")
      | none => pure ()
    | none => pure ()
  | [] => pure ()

/-- Whether a query is a single row of values. -/
def singleValues? (q : Select) : Option (List Expr) :=
  match q.body with
  | .core (.values [row] _) => some row
  | _ => none

/-- Whether a query is rows of values joined by `union all`, with nothing after them. -/
def valuesRows? (q : Select) : Option (List (List Expr)) :=
  if !q.orderBy.isEmpty || q.limit.isSome then none
  else (compoundCores q.body).mapM fun (op, c) =>
    match op, c with
    | none, .values [row] _ => some row
    | some .unionAll, .values [row] _ => some row
    | _, _ => none

/-- For each column of a table, the place of the value an `insert` gives it, and the place of
the value given for the rowid: by the column list, or else every column that is not generated
in order. -/
def insertPlaces (t : Table) (name : String) (columns : Option (List (String × Token))) :
    Except Fault (Array (Option Nat) × Option Nat) := do
  match columns with
  | none =>
    let open_ := (List.range t.columns.size).filter fun i => (t.column i).generated.isNone
    let places := (Array.range t.columns.size).map fun i => open_.idxOf? i
    pure (places, t.rowidAlias.bind fun k => open_.idxOf? k)
  | some cs =>
    let mut places : Array (Option Nat) := Array.replicate t.columns.size none
    let mut rowid : Option Nat := none
    for ((c, _), i) in cs.zipIdx do
      match t.columnIndex? c with
      | some j =>
        if (t.column j).generated.isSome then
          throw (Fault.error s!"cannot INSERT into generated column \"{(t.column j).name}\"")
        if (places.getD j none).isNone then places := places.set! j (some i)
        if t.rowidAlias == some j then rowid := some i
      | none =>
        if isRowidName c && !t.withoutRowid then rowid := some i
        else throw (Fault.error s!"table {name} has no column named {c}")
    pure (places, rowid)

/-- Compiles an `insert`, with the names of its `returning` columns. -/
def compileInsert (store : Store) (outer : List Scope) (ctes : Option With) (conflict : Conflict) (name : String)
    (asName : Option String) (columns : Option (List (String × Token))) (source : InsertSource)
    (upserts : List Upsert) (returning : List ResultColumn) :
    Except Fault (InsertPlan × List String) := do
  let t ← writeTable store name
  let (places, rowidPlace) ← insertPlaces t name columns
  let bare := stepCtx store ctes [] outer
  let (rows, width) ← match source with
    | .defaults => pure (RowSource.defaults, 0)
    | .query q =>
      match singleValues? q with
      | some row => do
        let terms ← finishStep (row.mapM (scalarTerm bare))
        pure (RowSource.single terms, row.length)
      | none => do
        let out ← finishStep (query compileFuel { bare with scopes := outer } q)
        match valuesRows? q, out.plan.body with
        | some _, body =>
          let rows := (compoundCores' body).filterMap fun c =>
            match c with
            | .values [r] => some r
            | _ => none
          pure (RowSource.rows rows, out.plan.width)
        | none, _ => pure (RowSource.query out.plan, out.plan.width)
  let generatedCount := t.columns.toList.countP (·.generated.isSome)
  match columns with
  | none =>
    if width > 0 && width != t.columns.size - generatedCount then
      throw (Fault.error
        s!"table {name} has {t.columns.size - generatedCount} columns but {width} values were supplied")
  | some cs =>
    if width != cs.length then throw (Fault.error s!"{width} values for {cs.length} columns")
  let rules ← compileRules store t
  checkTargetNulls upserts
  let own := stepCtx store ctes [tableScope t asName] outer
  let catches ← upserts.zipIdx.mapM fun (u, k) =>
    match u.target with
    | some target => finishStep (analyzeTarget own t rules target k upserts.length)
    | none => pure Catch.any
  let excluded := { tableScope t (some "excluded") with qualifiedOnly := true }
  let both := stepCtx store ctes [tableScope t asName, excluded] outer
  let plans ← (upserts.zip catches).mapM fun (u, c) =>
    match u.action with
    | .nothing => pure (UpsertPlan.mk c none)
    | .update sets cond => do
      checkAssignmentWidths sets
      let assigned ← finishStep (compileAssignments both t sets)
      let condTerm ← finishStep (cond.mapM (scalarTerm both))
      pure (UpsertPlan.mk c (some (assigned, condTerm)))
  let (ret, names) ← compileReturning store t returning
  pure (⟨t.name, conflict, places, rowidPlace, rows, plans, ret, rules⟩, names)
where
  /-- The cores of a compiled compound, left to right. -/
  compoundCores' : CompoundPlan → List CorePlan
    | .core c => [c]
    | .join _ l r _ => compoundCores' l ++ [r]

/-- The columns an `update … from` assigns, each with the place of its value among the values
its query gives: the last assignment to a column wins, and one to the rowid (or the column that
is the rowid) assigns the rowid. -/
def fromAssignments (t : Table) (names : List String) (first : Nat) : Except Fault Assigned := do
  let mut byColumn : List (Nat × Term) := []
  let mut rowid : Option Term := none
  for (c, i) in names.zipIdx do
    let term : Term := .column ⟨0, 1, some (first + i)⟩
    match t.columnIndex? c with
    | some k =>
      if (t.column k).generated.isSome then
        throw (Fault.error s!"cannot UPDATE generated column \"{(t.column k).name}\"")
      if t.rowidAlias == some k then rowid := some term
      else byColumn := (k, term) :: byColumn.filter (·.1 != k)
    | none =>
      if isRowidName c && !t.withoutRowid then rowid := some term
      else throw (Fault.error s!"no such column: {c}")
  pure ⟨byColumn.mergeSort (fun a b => a.1 ≤ b.1), rowid⟩

/-- Compiles an `update` with a `from` clause: a query over the table joined to the sources, under
the `where` condition, gives each row's identity and the value of each assigned column. -/
def compileUpdateFrom (store : Store) (outer : List Scope) (ctes : Option With) (conflict : Conflict) (t : Table)
    (name : String) (tok : Token) (asName : Option String) (hint : IndexHint) (sets : List Assignment)
    (source : List FromTerm) (filter : Option Expr) (returning : List ResultColumn) :
    Except Fault (UpdatePlan × List String) := do
  let pairs ← sets.foldlM (fun (acc : List (String × Expr)) a =>
    match a.columns, a.value with
    | [(c, _)], e => pure (acc ++ [(c, e)])
    | cols, .row items _ => pure (acc ++ (cols.zip items).map fun ((c, _), e) => (c, e))
    | _, _ => throw (Fault.error "assigning a row of a subquery in UPDATE ... FROM is not supported"))
    []
  let ident : List Term :=
    if t.withoutRowid then t.primaryKey.map fun (k, _) => Term.column ⟨0, 0, some k⟩
    else [Term.column ⟨0, 0, none⟩]
  let assigned ← fromAssignments t (pairs.map (·.1)) ident.length
  let target : FromTerm := ⟨.table none name tok, asName, hint, {}, none, []⟩
  let core : Core := .select false (pairs.map fun (_, e) => .expr e none "") (target :: source) filter [] none
    [] tok
  let out ← finishStep (query compileFuel { stepCtx store none [] outer with scopes := outer } ⟨ctes, .core core, [], none, none⟩)
  let plan := match out.plan.body with
    | .core (.select s) =>
      { out.plan with body := .core (.select { s with results := ident ++ s.results }),
                      width := out.plan.width + ident.length }
    | _ => out.plan
  let rules ← compileRules store t
  let (ret, names) ← compileReturning store t returning
  pure (⟨t.name, conflict, assigned, none, ret, rules, some (plan, ident.length)⟩, names)

/-- Compiles an `update`, with the names of its `returning` columns. -/
def compileUpdate (store : Store) (outer : List Scope) (ctes : Option With) (conflict : Conflict) (name : String)
    (tok : Token) (asName : Option String) (hint : IndexHint) (sets : List Assignment) (source : List FromTerm)
    (filter : Option Expr) (returning : List ResultColumn) :
    Except Fault (UpdatePlan × List String) := do
  checkAssignmentWidths sets
  let t ← writeTable store name
  checkHint t hint
  if !source.isEmpty then
    return ← compileUpdateFrom store outer ctes conflict t name tok asName hint sets source filter returning
  let ctx := stepCtx store ctes [tableScope t asName] outer
  let (assigned, cond) ← finishStep do
    let assigned ← compileAssignments ctx t sets
    let cond ← filter.mapM (scalarTerm ctx)
    pure (assigned, cond)
  let rules ← compileRules store t
  let (ret, names) ← compileReturning store t returning
  pure ({ table := t.name, conflict, assigned, filter := cond, returning := ret, rules }, names)

/-- Compiles a `delete`, with the names of its `returning` columns. -/
def compileDelete (store : Store) (outer : List Scope) (ctes : Option With) (name : String)
    (asName : Option String) (hint : IndexHint) (filter : Option Expr) (returning : List ResultColumn) :
    Except Fault (DeletePlan × List String) := do
  let t ← writeTable store name
  checkHint t hint
  let ctx := stepCtx store ctes [tableScope t asName] outer
  let cond ← finishStep (filter.mapM (scalarTerm ctx))
  let (ret, names) ← compileReturning store t returning
  pure (⟨t.name, cond, ret⟩, names)

/-! ## Rowids and sequences -/

/-- The largest rowid of a table's rows, none when it has none. -/
def Table.topRowid? (t : Table) : Option Int :=
  t.rows.foldl (fun m r => some (match m with
    | some x => max x r.rowid
    | none => r.rowid)) none

/-- Whether a row of `sqlite_sequence` is the one of a table. -/
def Row.isSequenceOf (r : Row) (table : String) : Bool :=
  match r.values.getD 0 .null with
  | .text n => n == bytesOf table
  | _ => false

/-- The largest rowid an `autoincrement` table ever had, as `sqlite_sequence` records it. -/
def Store.sequence (s : Store) (table : String) : Int :=
  match s.table? "sqlite_sequence" with
  | none => 0
  | some q =>
    match q.rows.find? (·.isSequenceOf table) with
    | some r => (r.values.getD 1 .null).intValue
    | none => 0

/-- The store with `sqlite_sequence` recording a new largest rowid for a table. -/
def Store.recordSequence (s : Store) (table : String) (value : Int) : Store :=
  match s.table? "sqlite_sequence" with
  | none => s
  | some q =>
    let values : Array Datum := #[.text (bytesOf table), .integer value]
    match q.rows.find? (·.isSequenceOf table) with
    | some r =>
      s.putTable { q with rows := q.rows.map fun x => if x.rowid == r.rowid then { x with values } else x }
    | none => s.putTable (q.addRow ⟨(q.topRowid?.getD 0) + 1, values⟩)

/-! ## Running -/

/-- What a write has done so far: the store, how many rows it changed, the rowid of the last row
it inserted, the rows its `returning` clause gave, the largest rowid its autoincrement table has
had, and the resolution of the constraint failure that stopped it. -/
structure WriteState where
  store : Store
  call : CallEnv
  params : Array Datum
  changes : Nat := 0
  lastRowid : Option Int := none
  returned : Array (List Datum) := #[]
  sequence : Option Int := none
  failure : Conflict := .abort
  /-- Whether foreign keys are enforced. -/
  foreignKeys : Bool := false
  /-- The foreign key violations the statement has made and not mended. -/
  fkPending : Int := 0
  /-- The violations of deferred foreign keys in the transaction. -/
  fkDeferred : Int := 0
  /-- How many foreign key actions deep the write runs; only the statement's own rows count as
  its changes. -/
  nested : Nat := 0
  /-- The rows foreign key actions changed. -/
  nestedChanges : Nat := 0
  /-- The rows a `replace` resolution deleted, not yet settled with their foreign keys. -/
  replaced : Array (String × Row) := #[]
  /-- The frame of the trigger program running: its `new` and `old` rows. -/
  outer : List LevelRow := []
  /-- The triggers whose programs are running, innermost first; none of them fires again. -/
  firing : List String := []
  /-- How many trigger programs and foreign key actions are running, one inside another. -/
  programs : Nat := 0
  deriving Inhabited

/-- A step of a write, which keeps the state it reached when it fails. -/
abbrev Writing := EStateM Fault WriteState

/-- The fuel each evaluation of a write is given. -/
def writeFuel : Nat := 100000

/-- What evaluating a term of a write sees: the store as written so far, and the rowid of the
last row inserted. -/
def WriteState.env (st : WriteState) : Env :=
  { store := st.store, params := st.params,
    call := { st.call with lastRowid := st.lastRowid.getD st.call.lastRowid } }

/-- A result of the pure parts of the engine as a step of a write. -/
def liftFault {α : Type} : Except Fault α → Writing α
  | .ok a => pure a
  | .error f => throw f

/-- The value of a term over some rows, source by source, inside the frame of the trigger
program running, if any. -/
def evalOn (cursors : Array Cursor) (t : Term) : Writing Datum := do
  let st ← get
  liftFault (Term.eval writeFuel st.env ({ cursors } :: st.outer) t)

/-- Fails a constraint, recording how the failure is resolved. -/
def refuse {α : Type} (how : Conflict) (f : Fault) : Writing α := do
  modify fun st => { st with failure := how }
  throw f

/-- The resolution of a constraint's failure: the statement's, when it has one, else the
constraint's own, else abort. -/
def resolution (statement own : Conflict) : Conflict :=
  if statement != .unset then statement else if own == .unset then .abort else own

/-- What a failed write undoes, given the resolution of the constraint that stopped it: a
trigger's `raise` says it itself; otherwise a `fail` resolution undoes nothing, a `rollback`
resolution the whole transaction, and any other the statement's own changes. -/
def Fault.undone (f : Fault) (how : Conflict) : Undo :=
  match f.undo with
  | .statement =>
    match how with
    | .fail => .nothing
    | .rollback => .transaction
    | _ => .statement
  | undo => undo

/-- The table of a name as written so far. -/
def currentTable (name : String) : Writing Table := do
  match (← get).store.table? name with
  | some t => pure t
  | none => throw (Fault.error s!"no such table: {name}")

/-- Replaces a table in the store. -/
def storeTable (t : Table) : Writing Unit :=
  modify fun st => { st with store := st.store.putTable t }

/-- A row being written as a cursor. -/
def rowCursor (t : Table) (rowid : Int) (values : Array Datum) : Cursor := t.cursor ⟨rowid, values⟩

/-- The value a column stores for a value written to it. -/
def Column.store (c : Column) (d : Datum) : Datum := Datum.readBack c.affinity (Datum.withAffinity c.affinity d)

/-- The rowid a new row of a table takes when none is given: one past the largest, and for an
`autoincrement` table also past the largest it ever had. When the largest is the largest
integer, an ordinary table takes the first free one of 100 random candidates; an
`autoincrement` table is full. -/
def newRowid (t : Table) : Writing Int := do
  let st ← get
  let top := t.topRowid?
  let v : Int := match top with
    | some x => x + 1
    | none => 1
  let full : Fault := Fault.coded 13 "database or disk is full"
  if t.autoincrement then
    let seq := st.sequence.getD 0
    if seq ≥ maxI64 || top == some maxI64 then throw full
    let v := max v (seq + 1)
    set { st with sequence := some v }
    pure v
  else if top == some maxI64 then
    -- the largest rowid is taken: up to 100 random candidates in `1 .. 2 ^ 62`
    let candidates := (List.range 100).map fun k =>
      randomInt (st.call.seed + k) % (Nat.pow 2 62 : Int) + 1
    match candidates.find? fun c => (t.row? c).isNone with
    | some c => pure c
    | none => throw full
  else pure v

/-- Records a rowid an autoincrement table has had. -/
def noteRowid (t : Table) (rowid : Int) : Writing Unit :=
  if t.autoincrement then
    modify fun st => { st with sequence := some (max (st.sequence.getD 0) rowid) }
  else pure ()

/-- The values of the generated columns of a row, computed in column order (twice, so that one
may read another after it). -/
def computeGenerated (t : Table) (rules : RowRules) (rowid : Int) (values : Array Datum) :
    Writing (Array Datum) := do
  let mut vs := values
  for _ in [0:2] do
    for i in [0:t.columns.size] do
      match rules.generated.getD i none with
      | some g =>
        let v ← evalOn #[rowCursor t rowid vs] g
        vs := vs.set! i ((t.column i).store v)
      | none => pure ()
  pure vs

/-- The columns whose NOT NULL constraint a row is checked against: every one but the rowid, or
in an update the changed ones and the generated ones. -/
def notNullColumns (t : Table) (changed : Option (List Nat)) : List Nat :=
  (List.range t.columns.size).filter fun i =>
    let c := t.column i
    c.notNull.isSome && t.rowidAlias != some i &&
      (c.generated.isSome || match changed with
        | some cs => cs.contains i
        | none => true)

/-- Checks the NOT NULL constraints of a row in two passes, giving the row to write, or none to
skip it. -/
def checkNotNull (t : Table) (rules : RowRules) (conflict : Conflict) (changed : Option (List Nat))
    (values : Array Datum) : Writing (Option (Array Datum)) := do
  let cols := notNullColumns t changed
  let mut vs := values
  let mut replaced : List Nat := []
  for i in cols do
    let c := t.column i
    if c.generated.isNone then
      let how := resolution conflict (c.notNull.getD .unset)
      let how := if how == .replace && c.default.isNone then .abort else how
      if how == .replace then replaced := replaced ++ [i]
      if (vs.getD i .null).isNull then
        match how with
        | .replace =>
          let d ← match rules.defaults.getD i none with
            | some term => evalOn #[] term
            | none => pure .null
          vs := vs.set! i d
        | .ignore => return none
        | other => refuse other (Fault.notNull t.name c.name)
  if !replaced.isEmpty || cols.any (fun i => (t.column i).generated.isSome) then
    for i in cols do
      let c := t.column i
      if replaced.contains i || c.generated.isSome then
        let how := if replaced.contains i then .abort else resolution conflict (c.notNull.getD .unset)
        let how := if how == .replace then .abort else how
        if (vs.getD i .null).isNull then
          match how with
          | .ignore => return none
          | other => refuse other (Fault.notNull t.name c.name)
  pure (some vs)

/-- The type name a `strict` table's failure gives for a value. -/
def strictTypeName : Datum → String
  | .integer _ => "INT"
  | .real _ => "REAL"
  | .text _ => "TEXT"
  | .blob _ => "BLOB"
  | .null => "NULL"

/-- Checks the values of a row of a `strict` table against the column types. -/
def checkStrict (t : Table) (values : Array Datum) : Writing Unit := do
  if !t.strict then return
  for i in [0:t.columns.size] do
    let c := t.column i
    let v := values.getD i .null
    if t.rowidAlias != some i && !v.isNull then
      let ty := c.type.toUpper
      let fits := match ty, v with
        | "INT", .integer _ | "INTEGER", .integer _ | "REAL", .real _ | "TEXT", .text _
        | "BLOB", .blob _ => true
        | "INT", _ | "INTEGER", _ | "REAL", _ | "TEXT", _ | "BLOB", _ => false
        | _, _ => true
      if !fits then
        throw (Fault.coded 3091 s!"cannot store {strictTypeName v} value in {ty} column {t.name}.{c.name}")

/-- Checks the CHECK constraints of a row, true when it passes and false to skip it; in an
update only those that read a changed column (or the rowid, when it changes). -/
def checkChecks (t : Table) (rules : RowRules) (conflict : Conflict) (changed : Option (List Nat))
    (rowidChanged : Bool) (cursor : Cursor) : Writing Bool := do
  for rule in rules.checks do
    let relevant := match changed with
      | some cs => rule.reads.any fun r =>
          match r with
          | some k => cs.contains k
          | none => rowidChanged
      | none => true
    if relevant then
      let v ← evalOn #[cursor] rule.term
      if v.truth? == some false then
        let fault : Fault := Fault.coded 275 s!"CHECK constraint failed: {rule.label}"
        match resolution conflict .unset with
        | .ignore => return false
        | .replace => refuse .abort fault
        | other => refuse other fault
  let _ := t
  pure true

/-- The key of a row in an index, or none when the row is not in it (a partial index holds only
the rows its condition holds for). -/
def indexKey (rule : IndexRule) (cursor : Cursor) : Writing (Option (List Datum)) := do
  match rule.filter with
  | some f =>
    let v ← evalOn #[cursor] f
    if !v.passes then return none
  | none => pure ()
  let key ← rule.keys.mapM (evalOn #[cursor])
  pure (some key)

/-- The row of a table, other than `self`, whose key in a unique index is `key`. -/
def conflictIn (t : Table) (rule : IndexRule) (key : List Datum) (self : Option Int) :
    Writing (Option Row) := do
  if key.any (·.isNull) then return none
  let colls := rule.index.terms.map (·.collation)
  for r in t.rows do
    if some r.rowid != self then
      match ← indexKey rule (t.cursor r) with
      | some k =>
        if (colls.zip (k.zip key)).all fun (c, a, b) => compareDatum c a b == .eq then
          return some r
      | none => pure ()
  pure none

/-- The failure of a unique index: its columns, or its name when it has expressions. -/
def uniqueFault (t : Table) (ix : Index) : Fault :=
  let what := if ix.terms.any (·.column.isNone) then s!"index '{ix.name}'"
    else ", ".intercalate (ix.terms.map fun it => t.name ++ "." ++ (t.column (it.column.getD 0)).name)
  Fault.coded (if ix.origin == .primaryKey then 1555 else 2067) ("UNIQUE constraint failed: " ++ what)

/-- The failure of a rowid that is taken. -/
def rowidFault (t : Table) : Fault :=
  match t.rowidAlias with
  | some k => Fault.coded 1555 s!"UNIQUE constraint failed: {t.name}.{(t.column k).name}"
  | none => Fault.coded 2579 s!"UNIQUE constraint failed: {t.name}.rowid"

/-- A uniqueness check: of the rowid, or of the index at a place in the index list. -/
inductive KeyCheck where
  | rowid
  | index (k : Nat)
  deriving DecidableEq, Inhabited

/-- What a failed uniqueness check does. -/
inductive Response where
  | refuse (how : Conflict)
  | ignore
  | replace
  | update (u : UpsertPlan)
  deriving Inhabited

/-- What the uniqueness checks decided for a row. -/
inductive Admission where
  | write
  | skip
  | upsert (u : UpsertPlan) (existing : Row)
  deriving Inhabited

/-- The first `on conflict` clause that catches a failure. -/
def upsertFor (ups : List UpsertPlan) (c : Catch) : Option UpsertPlan :=
  ups.find? (·.catches.covers c)

/-- What a check catches, for the clauses. -/
def KeyCheck.catch (rules : RowRules) : KeyCheck → Catch
  | .rowid => .rowid
  | .index k => .index (rules.indexes.getD k default).index.name

/-- The response to a failed uniqueness check under the statement's resolution and the
`on conflict` clauses (a lone `do update` with no target catching every failure). -/
def responseTo (t : Table) (rules : RowRules) (conflict : Conflict) (ups : List UpsertPlan)
    (c : KeyCheck) : Response :=
  let own := match c with
    | .rowid => t.keyConflict
    | .index k => (rules.indexes.getD k default).index.conflict
  let base := match resolution conflict own with
    | .ignore => Response.ignore
    | .replace => .replace
    | how => .refuse how
  match upsertFor ups (c.catch rules) with
  | some u => if u.update.isSome then .update u else .ignore
  | none => base

/-- The order of the uniqueness checks of a row: the indexes the `on conflict` clauses name
first, in the clauses' order, then the others in list order; the rowid first, or after the last
index a clause before its own names, or last when its resolution is its own `replace` and the
table has indexes. -/
def checkOrder (t : Table) (rules : RowRules) (conflict : Conflict) (ups : List UpsertPlan)
    (rowidCheck : Bool) : List KeyCheck :=
  let n := rules.indexes.length
  let targeted : List Nat := match ups with
    | u :: _ =>
      match u.catches with
      | .any => []
      | _ =>
        (ups.filterMap fun v => match v.catches with
          | .index name => rules.indexes.findIdx? fun r => sameName r.index.name name
          | _ => none).eraseDups
    | [] => []
  let iter := targeted ++ (List.range n).filter (!targeted.contains ·)
  let checks := iter.map KeyCheck.index
  if !rowidCheck || t.withoutRowid then checks
  else
    let delayed := match ups with
      | u :: _ => !u.catches.covers .rowid
      | [] => false
    if delayed then
      -- after the first index whose clause is followed by the rowid's, or by no targeted clause
      let place := iter.findIdx? fun k =>
        match ups.findIdx? (·.catches.covers (KeyCheck.catch rules (.index k))) with
        | some j =>
          match ups[j + 1]? with
          | none => true
          | some v =>
            match v.catches with
            | .index _ => false
            | _ => true
        | none => false
      match place with
      | some p => checks.take (p + 1) ++ [.rowid] ++ checks.drop (p + 1)
      | none => checks ++ [.rowid]
    else
      let own := resolution conflict t.keyConflict
      if own == .replace && conflict != .replace && n > 0 then checks ++ [.rowid]
      else .rowid :: checks

/-- Runs the uniqueness checks of a row in their order, deleting the rows in the way of a check
that replaces; `self` is the row an update rewrites, which is never in its own way. -/
def checkUnique (name : String) (rules : RowRules) (conflict : Conflict) (ups : List UpsertPlan)
    (rowidCheck : Bool) (self : Option Int) (rowid : Int) (values : Array Datum) :
    Writing Admission := do
  let t0 ← currentTable name
  let cursor := rowCursor t0 rowid values
  for c in checkOrder t0 rules conflict ups rowidCheck do
    let t ← currentTable name
    let found : Option (Row × Fault) ← match c with
      | .rowid =>
        if self == some rowid then pure none
        else pure ((t.row? rowid).map (·, rowidFault t))
      | .index k =>
        let rule := rules.indexes.getD k default
        if !rule.index.unique then pure none
        else
          match ← indexKey rule cursor with
          | none => pure none
          | some key => do
            let hit ← conflictIn t rule key self
            pure (hit.map (·, uniqueFault t rule.index))
    match found with
    | none => pure ()
    | some (r, fault) =>
      match responseTo t rules conflict ups c with
      | .refuse how => refuse how fault
      | .ignore => return .skip
      | .replace =>
        storeTable (t.removeRowid r.rowid)
        modify fun st => { st with replaced := st.replaced.push (name, r) }
      | .update u => return .upsert u r
  pure .write

/-- Checks a row against every constraint of its table: the row to write with its admission, or
none to skip it. `changed` lists the columns an update assigns. -/
def admitRow (name : String) (rules : RowRules) (conflict : Conflict) (ups : List UpsertPlan)
    (changed : Option (List Nat)) (rowidChanged : Bool) (self : Option Int) (rowid : Int)
    (values : Array Datum) : Writing (Option (Array Datum × Admission)) := do
  let t ← currentTable name
  match ← checkNotNull t rules conflict changed values with
  | none => pure none
  | some vs =>
    let vs := (Array.range t.columns.size).map fun i =>
      if t.rowidAlias == some i then Datum.null else (t.column i).store (vs.getD i .null)
    checkStrict t vs
    if !(← checkChecks t rules conflict changed rowidChanged (rowCursor t rowid vs)) then
      return none
    let admission ← checkUnique name rules conflict ups rowidChanged self rowid vs
    pure (some (vs, admission))

/-- Adds the values of a row written to the rows the `returning` clause gives. -/
def returnRow (terms : List Term) (cursor : Cursor) : Writing Unit := do
  if terms.isEmpty then return
  let row ← terms.mapM (evalOn #[cursor])
  modify fun st => { st with returned := st.returned.push row }

end RecordMap.Sql
