import RecordMap.Sql.Scope

/-!
# Compiling queries

`query` turns a parsed query into a `QueryPlan` against a store: every name is looked up, every
comparison gets its affinity and collation, aggregates and window functions get their slots, and
each `select` core gets its loops planned.

Compilation proceeds in the engine's order, which decides which failure a faulty statement
reports:

1. the tables of every `from` clause are looked up, right-most part of a compound first, and
   `*` is checked (`no such table`, `no tables specified`);
2. then, per core, right-most first: `limit` and `offset` (which may not name columns), the
   subqueries of `from`, the result columns, `having`, `where` (with the `on` and `using`
   conditions of the joins), `order by`, and `group by`; a core's width is checked against the
   core to its right once the core is compiled;
3. a compound's `order by` terms are then matched to its result columns.

Some failures are only found when the engine generates code: they are collected on the way
(`lateFault`) and reported when compilation otherwise succeeds.
-/

namespace RecordMap.Sql

open RecordMap.Numeral

/-- The offset of the leftmost token of an expression that the engine records for it. -/
def Expr.offset? : Expr → Option Nat
  | .integer _ t | .param _ t | .column _ _ t _ | .call _ t _ _ _ _ _ _ => some t.offset
  | .unary _ e | .binary _ e _ | .between _ e _ _ | .inList _ e _ | .inSelect _ e _
  | .inTable _ e _ _ | .isNull _ e | .cast e _ | .collate e _ _ => e.offset?
  | .cases (some e) _ _ => e.offset?
  | _ => none

/-- A failure pointing at an expression, or at nothing when it has no recorded place. -/
def Fault.atExpr (message : String) (e : Expr) : Fault :=
  match e.offset? with
  | some o => Fault.pointing message o
  | none => Fault.error message

/-- The expression under any `collate`, with the collation written outermost. -/
def Expr.stripCollate : Expr → Expr × Option String
  | .collate e c _ => ((e.stripCollate).1, some c)
  | e => (e, none)

/-- The integer an `order by` or `group by` term is, when it is an integer literal that fits in
32 bits, possibly signed. -/
def Expr.smallInteger? : Expr → Option Int
  | .integer text _ =>
    match (integerLiteral text false).1 with
    | .integer i => if -(Nat.pow 2 31 : Int) ≤ i && i < Nat.pow 2 31 then some i else none
    | _ => none
  | .unary .plus e => e.smallInteger?
  | .unary .negate e => (e.smallInteger?).map (- ·)
  | _ => none

/-- The right-most core of a compound. -/
def Compound.lastCore : Compound → Core
  | .core c => c
  | .join _ _ r _ => r

/-- How many places an expression has as written: a row value its items, a subquery the
result columns of its right-most core as written, anything else one. -/
def Expr.width : Expr → Nat
  | .row items _ => items.length
  | .subquery q _ =>
    match q.body.lastCore with
    | .select _ columns .. => columns.length
    | .values rows _ => (rows.getLastD []).length
  | _ => 1

/-- Whether a name written without quotes is `true` or `false`. -/
def isTruthWord (name : String) (tok : Token) : Bool :=
  match tok.kind with
  | .word _ => sameName name "true" || sameName name "false"
  | _ => false

/-- Whether an expression is constant: it reads no column and holds no subquery. With
`calls`, a function call of constant arguments is constant and a parameter is not; without,
a parameter is constant and a function call is not. -/
def Expr.isConstant (calls : Bool) : Nat → Expr → Bool
  | 0, _ => false
  | n + 1, e =>
    match e with
    | .literal _ | .integer _ _ | .float _ => true
    | .param _ _ => !calls
    | .column q nm tok _ => q.isEmpty && isTruthWord nm tok
    | .subquery _ _ | .exists _ | .inSelect _ _ _ | .inTable _ _ _ _ | .raise _ _ _ => false
    | .unary _ a | .isNull _ a | .cast a _ | .collate a _ _ => Expr.isConstant calls n a
    | .binary _ a b => Expr.isConstant calls n a && Expr.isConstant calls n b
    | .pattern _ _ a b c =>
      Expr.isConstant calls n a && Expr.isConstant calls n b &&
        (c.map (Expr.isConstant calls n)).getD true
    | .between _ a b c =>
      Expr.isConstant calls n a && Expr.isConstant calls n b && Expr.isConstant calls n c
    | .inList _ a items => Expr.isConstant calls n a && items.all (Expr.isConstant calls n)
    | .cases o arms d =>
      (o.map (Expr.isConstant calls n)).getD true &&
        arms.all (fun (a, b) => Expr.isConstant calls n a && Expr.isConstant calls n b) &&
        (d.map (Expr.isConstant calls n)).getD true
    | .call _ _ _ args _ _ _ overClause => calls && overClause.isNone && args.all (Expr.isConstant calls n)
    | .row items _ => items.all (Expr.isConstant calls n)

/-- The English ordinal of a number, as error messages write it. -/
def ordinal (k : Nat) : String :=
  let suffix :=
    if k % 100 ≥ 11 && k % 100 ≤ 13 then "th"
    else match k % 10 with
      | 1 => "st"
      | 2 => "nd"
      | 3 => "rd"
      | _ => "th"
  toString k ++ suffix

/-- The collation of a name, failing for an unknown one. -/
def collationNamed (name : String) : Except Fault Collation :=
  match Collation.ofName? name with
  | some c => pure c
  | none => throw (Fault.error s!"no such collation sequence: {name}")

/-- The name of a compound operator in error messages. -/
def CompoundOp.word : CompoundOp → String
  | .union => "UNION"
  | .unionAll => "UNION ALL"
  | .intersect => "INTERSECT"
  | .except => "EXCEPT"

/-- A failure as a step of compilation. -/
def liftExcept {α : Type} : Except Fault α → Resolve α
  | .ok a => pure a
  | .error f => throw f

/-- Runs a step of compilation for its result only: whatever it changes is undone, and a
failure is no result. -/
def probe {α : Type} (x : Resolve α) : Resolve (Option α) := do
  let saved ← get
  let r ← tryCatch (do
      let a ← x
      pure (some a)) fun _ => pure none
  set saved
  pure r

/-- Runs a step of compilation that may fail without stopping the steps after it: a failure
gives the fallback and becomes the failure to report, replacing any before it. -/
def attempt {α : Type} (x : Resolve α) (fallback : α) (last : Option Fault) :
    Resolve (α × Option Fault) :=
  tryCatch (do
      let a ← x
      pure (a, last)) fun f => pure (fallback, some f)

/-- The cores of a compound, left to right, each with the operator joining it to the cores
before it. -/
def compoundCores : Compound → List (Option CompoundOp × Core)
  | .core c => [(none, c)]
  | .join op l r _ => compoundCores l ++ [(some op, r)]

/-- The compound of cores listed with their operators. -/
def rebuild (cores : List (Option CompoundOp × Core)) : Compound :=
  match cores with
  | [] => .core default
  | (_, c) :: rest =>
    rest.foldl (fun acc (op, core) => .join (op.getD .unionAll) acc core default) (.core c)

/-- A result column as compiled: its term, its info, its alias (or the column name a `*`
expanded to), the text it was written as, and the column name its output shows, if any. -/
structure ResultItem where
  term : Term
  info : Info
  asName : Option String
  text : String
  shown : Option String
  deriving Inhabited

/-- A result column of a query as other parts of a statement see it: its name in the output,
its name as a column of a subquery, the info of its expression in the left-most and in the
right-most core, and the affinity it has as a column of a subquery. -/
structure ColumnOut where
  name : String
  sourceName : String
  first : Info
  last : Info
  affinity : Affinity
  deriving Inhabited

/-- A compiled query with its result columns. -/
structure QueryOut where
  plan : QueryPlan
  columns : List ColumnOut
  deriving Inhabited

/-- A compiled core with its result columns, the sources its names saw, and, for a `select`
compiled with the query's `order by`, its sort keys. -/
structure CoreOut where
  plan : CorePlan
  items : List ResultItem
  scopes : List ScopeSource
  keys : List SortKey
  deriving Inhabited

/-- A condition a join adds: an `on` expression still to compile, or a `using` equality, each
with the source it belongs to when that is the right side of an outer join. -/
inductive JoinCond where
  | on (e : Expr) (onOf : Option Nat)
  | eq (t : Term) (onOf : Option Nat)
  deriving Inhabited

/-- The compiled `from` clause of a core. -/
structure FromOut where
  kinds : List SourceKind
  scopes : List ScopeSource
  plans : List PlanSource
  conds : List JoinCond
  deriving Inhabited

/-- The source a flattened `from` term stands for, with how it joins. -/
structure FlatTerm where
  source : Source
  asName : Option String
  hint : IndexHint
  join : JoinKind
  on : Option Expr
  usingNames : List (String × Token)

instance : Inhabited FlatTerm := ⟨⟨.nested [], none, .none, {}, none, []⟩⟩

/-- The terms of a `from` clause with parenthesized joins flattened into it. -/
def flattenFrom : Nat → List FromTerm → List FlatTerm
  | 0, _ => []
  | _ + 1, [] => []
  | n + 1, t :: ts =>
    let here := match t.source with
      | .nested inner =>
        match flattenFrom n inner with
        | f :: fs =>
          let on := match f.on, t.on with
            | some a, some b => some (Expr.binary .and a b)
            | a, b => a.orElse fun _ => b
          { f with join := t.join, on, usingNames := f.usingNames ++ t.usingNames } :: fs
        | [] => []
      | s => [⟨s, t.asName, t.hint, t.join, t.on, t.usingNames⟩]
    here ++ flattenFrom n ts

/-- The kinds of the result column `k` of the cores of a compound after the left-most. -/
def laterKinds (cores : List (List ResultItem)) (k : Nat) : Nat :=
  (cores.drop 1).foldl (fun m items => m ||| ((items.getD k default).info.kinds)) 0

/-- The affinity a result column has as a column of a subquery: the left-most core's, except
that text mixed with numbers, or a number mixed with text, in later cores has none. -/
def subqueryAffinity (cores : List (List ResultItem)) (k : Nat) : Affinity :=
  let first := ((cores.headD []).getD k default).info.trait.affinity
  if cores.length ≤ 1 then first
  else
    let m := laterKinds cores k
    match first with
    | .text => if m &&& 1 != 0 then .blob else .text
    | .numeric | .integer | .real => if m &&& 2 != 0 then .blob else first
    | a => a

/-- The result columns of a query from the result columns of its cores, left-most first. -/
def columnsOf (cores : List (List ResultItem)) : List ColumnOut :=
  let firstItems := cores.headD []
  let lastItems := cores.getLastD []
  firstItems.zipIdx.map fun (item, k) =>
    { name := displayName k item.asName { item.info with columnName := item.shown } item.text
      sourceName := displayName k item.asName item.info item.text
      first := item.info
      last := (lastItems.getD k item).info
      affinity := subqueryAffinity cores k }

/-- The columns of a query as a source names them: the declared names when there are some. -/
def namedColumnsOf (cols : List ColumnOut) (declared : List String) : List NamedColumn :=
  let names := if declared.isEmpty then sourceNames (cols.map (·.sourceName)) else declared
  (cols.zip names).map fun (c, n) => ⟨n, c.affinity, c.first.trait.collation.getD .binary⟩

/-- A source that is a query, as names see it. -/
def derivedScope (cols : List NamedColumn) (asName : Option String) : ScopeSource :=
  { names := asName.toList, columns := cols, rowid := none, usingNames := [], rightJoin := false }

/-- A core's `distinct` collations: those of its result columns. -/
def distinctCollations (items : List ResultItem) : List Collation :=
  items.map fun i => i.info.trait.collation.getD .binary

/-- The sort key of a term that reads result column `k` of a query's own rows. -/
def outputKey (k : Nat) (c : Collation) (desc : Bool) (nullsFirst : Option Bool) : SortKey :=
  ⟨.column ⟨0, 0, some k⟩, c, desc, nullsFirst.getD !desc⟩

/-- The collation of result column `k` of a compound: the left-most core's that has one. -/
def compoundCollation (cores : List (List ResultItem)) (k : Nat) : Collation :=
  (cores.findSome? fun items => (items.getD k default).info.trait.collation).getD .binary

/-- The compound plan of compiled cores: each join tells rows apart by the collations of the
cores up to it. -/
def assemble (itemLists : List (List ResultItem)) (ops : List (Option CompoundOp))
    (plans : List CorePlan) : CompoundPlan :=
  let width := (itemLists.headD []).length
  match plans with
  | [] => default
  | p :: ps =>
    ((ops.drop 1).zip ps).zipIdx.foldl (fun acc ((op, q), j) =>
      .join (op.getD .unionAll) acc q
        ((List.range width).map (compoundCollation (itemLists.take (j + 2))))) (.core p)

/-- The context with one more scope, innermost. -/
def Ctx.withScope (ctx : Ctx) (sc : Scope) : Ctx := { ctx with scopes := sc :: ctx.scopes }

/-- The context with the innermost scope changed. -/
def Ctx.mapScope (ctx : Ctx) (f : Scope → Scope) : Ctx :=
  match ctx.scopes with
  | sc :: rest => { ctx with scopes := f sc :: rest }
  | [] => ctx

def Ctx.scope (ctx : Ctx) : Scope := ctx.scopes.headD default

/-- A scope with no names, where aggregates and windows may not stand. -/
def emptyScope : Scope := ⟨[], [], .refused, false⟩

/-- Runs the compilation of a core with its own aggregate and window lists, giving them back
beside its result and restoring the enclosing core's. -/
def withCoreState {α : Type} (body : Resolve α) :
    Resolve (α × Array AggregateCall × Array WindowDef × Array WindowCall) := do
  let saved ← get
  set { saved with aggregates := #[], windows := #[], windowCalls := #[] }
  let r ← body
  let inner ← get
  set { inner with aggregates := saved.aggregates, windows := saved.windows,
                   windowCalls := saved.windowCalls }
  pure (r, inner.aggregates, inner.windows, inner.windowCalls)

/-- What a column name turns out to be. -/
inductive NameHit where
  | found (t : Term) (i : Info)
  /-- An unquoted `true` or `false` that names no column. -/
  | truth (value : Bool)

/-- Looks a column name up in the scopes, innermost first; an unqualified name may also be a
result alias of the innermost scope, a double-quoted one a string, and `true` and `false` the
numbers 1 and 0. -/
def lookupName (ctx : Ctx) (quals : List String) (name : String) (tok : Token) (dq : Bool) :
    Resolve NameHit := do
  let qual := quals.getLast?
  let rec go : Nat → List Scope → Resolve (Option (Term × Info))
    | _, [] => pure none
    | depth, sc :: rest =>
      match lookupInSources sc.sources depth qual name with
      | .found t i => pure (some (t, i))
      | .ambiguous =>
        throw (Fault.pointing ("ambiguous column name: " ++ columnText quals name) tok.offset)
      | .missing =>
        match (if depth == 0 && qual.isNone then sc.aliases.find? (fun a => sameName a.name name)
            else none) with
        | some a =>
          if a.info.aggregate.isSome && sc.aggregates == .refused then
            throw (Fault.error s!"misuse of aliased aggregate {name}")
          else if a.info.window.isSome && !sc.windows then
            throw (Fault.error s!"misuse of aliased window function {name}")
          else if a.info.width != 1 then throw (Fault.error "row value misused")
          else do
            if sc.aggregates == .late then
              match a.info.aggregate with
              | some (f, o) => lateFault (Fault.pointing s!"misuse of aggregate: {f}()" o)
              | none => pure ()
            pure (some (a.term, a.info))
        | none => go (depth + 1) rest
  match ← go 0 ctx.scopes with
  | some (t, i) => pure (.found t i)
  | none =>
    if quals.isEmpty && dq then pure (.found (.value (Datum.ofString name)) { kinds := 2 })
    else if quals.isEmpty && isTruthWord name tok then pure (.truth (sameName name "true"))
    else throw (Fault.pointing ("no such column: " ++ columnText quals name) tok.offset)

/-- A column name as a value: `true` and `false` are 1 and 0. -/
def lookupColumn (ctx : Ctx) (quals : List String) (name : String) (tok : Token) (dq : Bool) :
    Resolve (Term × Info) := do
  match ← lookupName ctx quals name tok dq with
  | .found t i => pure (t, i)
  | .truth b => pure (.value (.integer (if b then 1 else 0)), {})

/-- Records the failure of a row value where one value is wanted. -/
def needScalar (e : Expr) (i : Info) : Resolve Unit :=
  if i.width == 1 then pure ()
  else match e with
    | .subquery _ _ => lateFault (Fault.error s!"sub-select returns {i.width} columns - expected 1")
    | _ => lateFault (Fault.error "row value misused")

/-- A window specification with the named window it builds on merged in. -/
def mergeWindow (named : List (String × WindowSpec)) (w : WindowSpec) : Except Fault WindowSpec :=
  match w.base with
  | none => pure w
  | some b =>
    match named.find? (fun (n, _) => sameName n b) with
    | none => throw (Fault.error s!"no such window: {b}")
    | some (_, base) =>
      if !w.partition.isEmpty then
        throw (Fault.error s!"cannot override PARTITION clause of window: {b}")
      else if !base.orderBy.isEmpty && !w.orderBy.isEmpty then
        throw (Fault.error s!"cannot override ORDER BY clause of window: {b}")
      else if base.frame.isSome then
        throw (Fault.error s!"cannot override frame specification of window: {b}")
      else
        pure { base := none, partition := base.partition,
               orderBy := if w.orderBy.isEmpty then base.orderBy else w.orderBy, frame := w.frame }

/-- The frame a built-in window function always uses, whatever its window says. -/
def WindowFn.fixedFrame : WindowFn → Option (FrameUnit × FrameBound × FrameBound)
  | .rowNumber => some (.rows, .unboundedPreceding, .currentRow)
  | .denseRank | .rank => some (.range, .unboundedPreceding, .currentRow)
  | .percentRank => some (.groups, .currentRow, .unboundedFollowing)
  | .cumeDist => some (.groups, .following (.integer "1" default), .unboundedFollowing)
  | .ntile => some (.rows, .currentRow, .unboundedFollowing)
  | .lead => some (.rows, .unboundedPreceding, .unboundedFollowing)
  | .lag => some (.rows, .unboundedPreceding, .currentRow)
  | _ => none

/-- Whether a frame bound has an offset. -/
def FrameBound.hasOffset : FrameBound → Bool
  | .preceding _ | .following _ => true
  | _ => false

/-- The fuel the compilation of a statement is given: each step into a part of it uses one. -/
def compileFuel : Nat := 100000

/-- The failure of a compilation that ran out of fuel. -/
def tooDeep : Fault := Fault.error "Expression tree is too large (maximum depth 1000)"

mutual

/-- Compiles an expression. -/
def expr : Nat → Ctx → Expr → Resolve (Term × Info)
  | 0, _, _ => throw tooDeep
  | n + 1, ctx, e =>
    match e with
    | .literal d => pure (.value d, { kinds := d.kinds })
    | .integer text tok => do
      let (d, bad) := integerLiteral text false
      if let some m := bad then lateFault (Fault.pointing m tok.offset)
      pure (.value d, {})
    | .float text => pure (.value (floatLiteral text false), {})
    | .param slot _ => pure (.param slot, { kinds := 7 })
    | .column quals name tok dq => lookupColumn ctx quals name tok dq
    | .unary .negate (.integer text tok) => do
      let (d, bad) := integerLiteral text true
      if let some m := bad then lateFault (Fault.pointing m tok.offset)
      pure (.value d, {})
    | .unary .negate (.float text) => pure (.value (floatLiteral text true), {})
    | .unary op a => do
      let (t, i) ← expr n ctx a
      needScalar a i
      let base := Info.combine [i]
      match op with
      | .plus =>
        pure (.plus t, { i with trait := { i.trait with affinity := .none }, columnName := none })
      | .negate => pure (.negate t, base)
      | .bitNot => pure (.bitNot t, base)
      | .not => pure (.not t, base)
    | .binary op l r => binary n ctx e op l r
    | .pattern op negated s p esc => do
      let (ts, is) ← expr n ctx s
      let (tp, ip) ← expr n ctx p
      needScalar s is
      needScalar p ip
      let escaped ← match esc with
        | some x => do
          let (tx, ix) ← expr n ctx x
          pure (some (tx, ix))
        | none => pure none
      let args := [tp, ts] ++ (escaped.map (·.1)).toList
      let info := Info.combine ([ip, is] ++ (escaped.map (·.2)).toList)
      let coll := ([ip, is].findSome? (·.trait.collation)).getD .binary
      let t ← match op with
        | .like => pure (Term.call .like coll args)
        | .glob => pure (Term.call .glob coll args)
        | .regexp => throw (Fault.error "no such function: REGEXP")
        | .match =>
          pure (Term.failure (Fault.error "unable to use function MATCH in the requested context")
            args)
      pure (if negated then .not t else t, { info with kinds := 1 })
    | .between negated x lo hi => do
      if x.width != lo.width || x.width != hi.width then throw (Fault.atExpr "row value misused" e)
      let (tx, ix) ← expr n ctx x
      let (tl, il) ← expr n ctx lo
      let (th, ih) ← expr n ctx hi
      let info := Info.combine [ix, il, ih]
      if ix.width != il.width || ix.width != ih.width then
        lateFault (Fault.error "row value misused")
      if ix.width > 1 then
        let places := List.range ix.width
        let ge := Term.compareRows .ge (places.map fun k => (ix.place k).comparer (il.place k)) tx tl
        let le := Term.compareRows .le (places.map fun k => (ix.place k).comparer (ih.place k)) tx th
        let t := Term.and ge le
        pure (if negated then .not t else t, info)
      else
        pure (.between negated (ix.trait.comparer il.trait) (ix.trait.comparer ih.trait) tx tl th,
          info)
    | .inList negated x items => do
      match items with
      | [] => pure (.value (.integer (if negated then 1 else 0)), {})
      | [single] =>
        if Expr.isConstant false 64 single && !(match x with | .row _ _ => true | _ => false) then do
          let (t, i) ← binary n ctx e .eq x (.unary .plus single)
          pure (if negated then .not t else t, i)
        else inListGeneral n ctx negated x items
      | _ => inListGeneral n ctx negated x items
    | .inSelect negated x q => do
      let (tx, ix) ← expr n ctx x
      let sub ← query n ctx q
      let width := sub.columns.length
      if width != ix.width then
        lateFault (Fault.error s!"sub-select returns {width} columns - expected {ix.width}")
      let cs := (List.range ix.width).map fun k =>
        let s := ((sub.columns.getD k default).last).trait
        let xk := ix.place k
        (⟨Affinity.comparison s.affinity xk.affinity, Trait.collationWith xk s⟩ : Comparer)
      pure (.inQuery negated cs tx sub.plan, Info.combine [ix])
    | .inTable negated x name tok =>
      expr n ctx (.inSelect negated x
        { ctes := none,
          body := .core (.select false [.all tok] [⟨.table none name tok, none, .none, {}, none, []⟩]
            none [] none [] tok),
          orderBy := [], limit := none, offset := none })
    | .isNull negated a => do
      let (t, i) ← expr n ctx a
      needScalar a i
      pure (.isNull negated t, Info.combine [i])
    | .cases operand arms otherwise => do
      let op ← match operand with
        | some o => do
          let r ← expr n ctx o
          pure (some r)
        | none => pure none
      let compiled ← arms.mapM fun (c, r) => do
        let (tc, ic) ← expr n ctx c
        let (tr, ir) ← expr n ctx r
        needScalar c ic
        needScalar r ir
        pure (tc, ic, tr, ir)
      let other ← match otherwise with
        | some o => do
          let r ← expr n ctx o
          needScalar o r.2
          pure (some r)
        | none => pure none
      let caseArms := compiled.map fun (tc, ic, tr, _) =>
        let cmp := match op with
          | some (_, io) => io.trait.comparer ic.trait
          | none => Comparer.plain
        CaseArm.mk tc cmp tr
      let parts := (op.map (·.2)).toList ++ compiled.flatMap (fun (_, ic, _, ir) => [ic, ir]) ++
        (other.map (·.2)).toList
      let kinds := compiled.foldl (fun m (_, _, _, ir) => m ||| ir.kinds) 0 |||
        ((other.map (·.2.kinds)).getD 0)
      pure (.cases (op.map (·.1)) caseArms (other.map (·.1)), { Info.combine parts with kinds })
    | .cast a ty => do
      let (t, i) ← expr n ctx a
      needScalar a i
      let aff := Affinity.ofTypeName ty
      pure (.cast aff t,
        { i with trait := { i.trait with affinity := aff }, columnName := none,
                 kinds := kindsOfAffinity aff, width := 1 })
    | .collate a name _ => do
      let (t, i) ← expr n ctx a
      let c ← liftExcept (collationNamed name)
      pure (t, { i with trait := { i.trait with collation := some c, explicit := true } })
    | .call name tok distinct args star orderBy filter overClause =>
      call n ctx name tok distinct args star orderBy filter overClause
    | .exists q => do
      let sub ← query n ctx q
      pure (.exists sub.plan, {})
    | .subquery q _ => do
      let sub ← query n ctx q
      let width := sub.columns.length
      let first := (sub.columns.headD default).last
      pure (.scalar sub.plan,
        { trait := { affinity := first.trait.affinity }, width,
          places := sub.columns.map (·.last.trait),
          kinds := kindsOfAffinity first.trait.affinity })
    | .row items _ => do
      let compiled ← items.mapM (expr n ctx)
      let infos := compiled.map (·.2)
      let first := infos.headD {}
      pure (.row (compiled.map (·.1)),
        { Info.combine infos with
          trait := { first.trait with explicit := infos.any (·.trait.explicit) },
          places := infos.map (·.trait), width := items.length,
          kinds := kindsOfAffinity first.trait.affinity })
    | .raise kind message _ => do
      if !ctx.trigger then lateFault (Fault.error "RAISE() may only be used within a trigger-program")
      let m ← match message with
        | some m => do
          let r ← expr n ctx m
          pure r.1
        | none => pure (.value .null)
      pure (.raise kind m, {})

/-- Compiles a binary operator. -/
def binary : Nat → Ctx → Expr → BinaryOp → Expr → Expr → Resolve (Term × Info)
  | 0, _, _, _, _, _ => throw tooDeep
  | n + 1, ctx, whole, op, l, r => do
    let isComparison := match op with
      | .eq | .ne | .lt | .le | .gt | .ge | .is | .isNot => true
      | _ => false
    let truthTest ← match op, r with
      | .is, .column [] nm tok dq | .isNot, .column [] nm tok dq => do
        let hit ← lookupName ctx [] nm tok dq
        match hit with
        | .truth b => pure (some b)
        | .found _ _ => pure none
      | _, _ => pure none
    match truthTest with
    | some wanted => do
      let (tl, il) ← expr n ctx l
      needScalar l il
      pure (.truth wanted (op == .isNot) tl, Info.combine [il])
    | none => do
      if isComparison && l.width != r.width then throw (Fault.atExpr "row value misused" whole)
      let (tl, il) ← expr n ctx l
      let (tr, ir) ← expr n ctx r
      let info := Info.combine [il, ir]
      let comparison (c : CompareOp) : Resolve (Term × Info) := do
        if il.width != ir.width then
          if il.width == 1 then needScalar r ir
          else if ir.width == 1 then needScalar l il
          else lateFault (Fault.error "row value misused")
          pure (.compare c (il.trait.comparer ir.trait) tl tr, info)
        else if il.width > 1 then
          pure (.compareRows c ((List.range il.width).map fun k => (il.place k).comparer (ir.place k))
            tl tr, info)
        else pure (.compare c (il.trait.comparer ir.trait) tl tr, info)
      let scalarOnly (t : Term) (i : Info) : Resolve (Term × Info) := do
        needScalar l il
        needScalar r ir
        pure (t, i)
      match op with
      | .and => scalarOnly (.and tl tr) info
      | .or => scalarOnly (.or tl tr) info
      | .eq => comparison .eq
      | .ne => comparison .ne
      | .lt => comparison .lt
      | .le => comparison .le
      | .gt => comparison .gt
      | .ge => comparison .ge
      | .is => comparison .is
      | .isNot => comparison .isNot
      | .bitAnd => scalarOnly (.bits .and tl tr) info
      | .bitOr => scalarOnly (.bits .or tl tr) info
      | .shiftLeft => scalarOnly (.bits .shiftLeft tl tr) info
      | .shiftRight => scalarOnly (.bits .shiftRight tl tr) info
      | .add => scalarOnly (.arith .add tl tr) info
      | .sub => scalarOnly (.arith .sub tl tr) info
      | .mul => scalarOnly (.arith .mul tl tr) info
      | .div => scalarOnly (.arith .div tl tr) info
      | .rem => scalarOnly (.arith .rem tl tr) info
      | .concat => scalarOnly (.concat tl tr) { info with kinds := 6 }
      | .extract => scalarOnly (.call (.json .arrow false) .binary [tl, tr]) { info with kinds := 7 }
      | .extractValue =>
        scalarOnly (.call (.json .arrowValue false) .binary [tl, tr]) { info with kinds := 7 }

/-- Compiles `x in (a, b, …)`, compared under the affinity and collation of `x`. -/
def inListGeneral : Nat → Ctx → Bool → Expr → List Expr → Resolve (Term × Info)
  | 0, _, _, _, _ => throw tooDeep
  | n + 1, ctx, negated, x, items => do
    let (tx, ix) ← expr n ctx x
    let compiled ← items.mapM (expr n ctx)
    if ix.width != 1 then lateFault (Fault.error "row value misused")
    for (item, (_, i)) in items.zip compiled do needScalar item i
    let c : Comparer := ⟨ix.trait.affinity, ix.trait.collation.getD .binary⟩
    pure (.inList negated c tx (compiled.map (·.1)), Info.combine (ix :: compiled.map (·.2)))

/-- Compiles a function call: a scalar function, an aggregate, or a window function. Its checks
and its parts are compiled in the engine's order without stopping at a failure: the last
failure is the one reported. -/
def call : Nat → Ctx → String → Token → Bool → List Expr → Bool → List SortTerm →
    Option Expr → Option Over → Resolve (Term × Info)
  | 0, _, _, _, _, _, _, _, _, _ => throw tooDeep
  | n + 1, ctx, name, tok, distinct, args, _, orderBy, filter, overClause => do
    let argc := args.length
    let sc := ctx.scope
    let found := lookupFunction name argc
    let isAgg := match found with
      | .found (.aggregate _) | .found (.window _) => true
      | _ => false
    let isWindowFn := match found with
      | .found (.window _) => true
      | _ => false
    let probErr : Option Fault := match found with
      | .found (.special .likelihood) =>
        let ok := match args.getD 1 default with
          | .float text =>
            let x := (readReal (bytesOf text)).value
            0.0 ≤ x && x ≤ 1.0
          | _ => false
        if ok then none
        else some (Fault.pointing
          s!"second argument to {name}() must be a constant between 0.0 and 1.0" tok.offset)
      | _ => none
    let fnErr : Option Fault := match found with
      | .found f =>
        let scalarLike := match f with
          | .scalar _ | .special _ => true
          | _ => false
        if overClause.isSome && scalarLike then
          some (Fault.pointing s!"{name}() may not be used as a window function" tok.offset)
        else if (isAgg && sc.aggregates == .refused) || (isWindowFn && overClause.isNone) ||
            (isAgg && overClause.isSome && !sc.windows) then
          let kind := if isWindowFn || overClause.isSome then "window" else "aggregate"
          some (Fault.pointing s!"misuse of {kind} function {name}()" tok.offset)
        else if !isAgg && filter.isSome then
          some (Fault.pointing s!"FILTER may not be used with non-aggregate {name}()" tok.offset)
        else if !isAgg && !orderBy.isEmpty then
          some (Fault.pointing s!"ORDER BY may not be used with non-aggregate {name}()" tok.offset)
        else none
      | .unknown => some (Fault.pointing s!"no such function: {name}" tok.offset)
      | .wrongArgs =>
        some (Fault.pointing s!"wrong number of arguments to function {name}()" tok.offset)
    let active := isAgg && fnErr.isNone
    let err := fnErr.orElse fun _ => probErr
    let argCtx := if active then
        ctx.mapScope fun s =>
          { s with windows := false, aggregates := if overClause.isSome then s.aggregates else .refused }
      else ctx
    let (compiled, err) ← attempt (args.mapM (expr n argCtx)) [] err
    let (_, err) ← attempt ((args.zip compiled).forM fun (a, (_, i)) => needScalar a i) () err
    let terms := compiled.map (·.1)
    let infos := compiled.map (·.2)
    let coll := (infos.findSome? (·.trait.collation)).getD .binary
    let combined := Info.combine infos
    if !active then
      if let some f := err then throw f
    match found, overClause with
    | .found (.scalar f), _ => pure (.call f coll terms, { combined with kinds := 7 })
    | .found (.special f), _ =>
      match f, terms with
      | .coalesce, ts => pure (.coalesce ts, { combined with kinds := 7 })
      | .ifnull, ts => pure (.coalesce ts, { combined with kinds := 7 })
      | .iif, [a, b, c] => pure (.iif a b c, { combined with kinds := 7 })
      | _, a :: _ =>
        pure (a, { infos.headD {} with
          trait := { affinity := .none, collation := combined.trait.collation,
                     explicit := combined.trait.explicit } })
      | _, [] => pure (.value .null, {})
    | .found (.aggregate f), none => do
      let inner := argCtx.mapScope fun s => { s with aggregates := .refused }
      let (keys, err) ← attempt (sortKeys n inner orderBy) [] err
      let (filterTerm, err) ← attempt (do
          match filter with
          | some fe => do
            let r ← expr n inner fe
            pure (some r.1)
          | none => pure none) none err
      if let some f := err then throw f
      let info := { combined with aggregate := some (name, tok.offset), kinds := 7 }
      if sc.aggregates == .late then
        lateFault (Fault.pointing s!"misuse of aggregate: {name}()" tok.offset)
        pure (.value .null, info)
      else
        if distinct && terms.length != 1 then
          lateFault (Fault.error "DISTINCT aggregates must have exactly one argument")
        let st ← get
        set { st with aggregates := st.aggregates.push ⟨f, terms, distinct, filterTerm, keys, coll⟩ }
        pure (.aggregate st.aggregates.size, info)
    | .found (.aggregate f), some o =>
      windowCall n argCtx (.aggregate f) terms coll distinct filter o err
        { combined with window := some name, kinds := 7 }
    | .found (.window f), some o =>
      windowCall n argCtx (.builtin f) terms coll distinct filter o err
        { combined with window := some name, kinds := 7 }
    | _, _ => throw (Fault.pointing s!"no such function: {name}" tok.offset)

/-- Registers a window function call, after compiling its window: the window it builds on, the
checks of its frame, its partition, its order and its `filter`, in that order, the last failure
being the one reported. -/
def windowCall : Nat → Ctx → WindowKind → List Term → Collation → Bool →
    Option Expr → Over → Option Fault → Info → Resolve (Term × Info)
  | 0, _, _, _, _, _, _, _, _, _ => throw tooDeep
  | n + 1, ctx, kind, terms, coll, distinct, filter, overClause, err, info => do
    if distinct then throw (Fault.error "DISTINCT is not supported for window functions")
    let named := ctx.windowDefs
    let isBuiltin := match kind with
      | .builtin _ => true
      | .aggregate _ => false
    let specOf : Except Fault WindowSpec := match overClause with
      | .named w _ =>
        match named.find? (fun (nm, _) => sameName nm w) with
        | some (_, s) => mergeWindow named s
        | none => throw (Fault.error s!"no such window: {w}")
      | .spec s => mergeWindow named s
    let (spec, err) ← attempt (liftExcept specOf) default err
    let frame : Frame := match spec.frame with
      | some fr => fr
      | none => ⟨.range, .unboundedPreceding, .currentRow, .noOthers⟩
    let err :=
      if frame.unit == .range && (frame.start.hasOffset || frame.finish.hasOffset) &&
          spec.orderBy.length != 1 then
        some (Fault.error "RANGE with offset PRECEDING/FOLLOWING requires one ORDER BY expression")
      else if isBuiltin && filter.isSome then
        some (Fault.error "FILTER clause may only be used with aggregate window functions")
      else err
    let fixed := match kind with
      | .builtin f => f.fixedFrame
      | .aggregate _ => none
    let (unit, start, finish, exclude) := match fixed with
      | some (u, s, f) => (u, s, f, FrameExclude.noOthers)
      | none => (frame.unit, frame.start, frame.finish, frame.exclude)
    let (partition, err) ← attempt (spec.partition.mapM fun pe => do
        let (t, i) ← expr n ctx pe
        pure (SortKey.mk t (i.trait.collation.getD .binary) false true)) [] err
    let (order, err) ← attempt (sortKeys n ctx spec.orderBy) [] err
    let (filterTerm, err) ← attempt (do
        match filter with
        | some fe => do
          let r ← expr n ctx fe
          pure (some r.1)
        | none => pure none) none err
    if let some f := err then throw f
    let empty : Ctx := { ctx with scopes := [emptyScope] }
    let offsetTerm (x : Expr) : Resolve Term := do
      if Expr.isConstant true 64 x then
        let r ← probe (expr n empty x)
        pure ((r.map (·.1)).getD (.value .null))
      else pure (.value .null)
    let bound (b : FrameBound) : Resolve Bound := match b with
      | .unboundedPreceding => pure .unboundedPreceding
      | .currentRow => pure .currentRow
      | .unboundedFollowing => pure .unboundedFollowing
      | .preceding x => do
        let t ← offsetTerm x
        pure (.preceding t)
      | .following x => do
        let t ← offsetTerm x
        pure (.following t)
    let s ← bound start
    let f ← bound finish
    let st ← get
    let w : WindowDef := ⟨partition, order, unit, s, f, exclude⟩
    set { st with windows := st.windows.push w,
                  windowCalls := st.windowCalls.push ⟨kind, terms, filterTerm, st.windows.size, coll⟩ }
    pure (.window st.windowCalls.size, info)

/-- Compiles the terms of an `order by` inside a call or a window: plain expressions. -/
def sortKeys : Nat → Ctx → List SortTerm → Resolve (List SortKey)
  | 0, _, _ => throw tooDeep
  | _ + 1, _, [] => pure []
  | n + 1, ctx, st :: rest => do
    let (t, i) ← expr n ctx st.expr
    let more ← sortKeys n ctx rest
    pure (⟨t, i.trait.collation.getD .binary, st.descending, st.nullsFirst.getD !st.descending⟩ ::
      more)

/-- Compiles a query. -/
def query : Nat → Ctx → Select → Resolve QueryOut
  | 0, _, _ => throw tooDeep
  | n + 1, ctx, q => do
    let ctx := match q.ctes with
      | some w =>
        let base := ctx.ctes.length
        let group := w.ctes.map fun c => CteDef.mk c.name c.columns c.query (base + w.ctes.length)
        { ctx with ctes := group.reverse ++ ctx.ctes }
      | none => ctx
    liftExcept (checkTables n ctx q.body)
    let limitCtx : Ctx := { ctx with scopes := [emptyScope] }
    let limit ← match q.limit with
      | some e => do
        let r ← expr n limitCtx e
        pure (some r.1)
      | none => pure none
    let offset ← match q.offset with
      | some e => do
        let r ← expr n limitCtx e
        pure (some r.1)
      | none => pure none
    match q.body with
    | .core c@(.select ..) => do
      let fixedLimit : Option Nat := match q.limit with
        | some (.integer text _) =>
          match integerLiteral text false with
          | (.integer v, none) => if v > 0 then some v.toNat else none
          | _ => none
        | _ => none
      let out ← core n ctx c (some q.orderBy) fixedLimit
      let cols := columnsOf [out.items]
      pure ⟨⟨.core out.plan, out.keys, limit, offset, cols.length⟩, cols⟩
    | body => do
      let cores := compoundCores body
      let outs ← compoundOuts n ctx cores.reverse none
      let outs := outs.reverse
      let itemLists := outs.map (·.items)
      let cols := columnsOf itemLists
      let plan := assemble itemLists (cores.map (·.1)) (outs.map (·.plan))
      let keys ← compoundKeys n ctx outs q.orderBy
      pure ⟨⟨plan, keys, limit, offset, cols.length⟩, cols⟩

/-- Compiles the cores of a compound, right-most first, checking once each is compiled that it
has as many result columns as the one to its right, given with its operator and whether it is a
`values`. -/
def compoundOuts : Nat → Ctx → List (Option CompoundOp × Core) →
    Option (CompoundOp × Bool × Nat) → Resolve (List CoreOut)
  | 0, _, _, _ => throw tooDeep
  | _ + 1, _, [], _ => pure []
  | n + 1, ctx, (op, c) :: rest, right => do
    let out ← core n ctx c none none
    match right with
    | some (rop, isValues, w) =>
      if w != out.items.length then
        if isValues then throw (Fault.error "all VALUES must have the same number of terms")
        else throw (Fault.error
          s!"SELECTs to the left and right of {rop.word} do not have the same number of result columns")
    | none => pure ()
    let isValues := match c with
      | .values .. => true
      | _ => false
    let more ← compoundOuts n ctx rest (op.map fun o => (o, isValues, out.items.length))
    pure (out :: more)

/-- Matches the `order by` terms of a compound to its result columns, core by core from the
left: a number names a column, a name an alias of the core, and any other term matches a
result column of the core that it compiles to. -/
def compoundKeys : Nat → Ctx → List CoreOut → List SortTerm → Resolve (List SortKey)
  | 0, _, _, _ => throw tooDeep
  | n + 1, ctx, outs, terms => do
    let itemLists := outs.map (·.items)
    let width := (itemLists.headD []).length
    let init : List (Option Nat) := terms.map fun _ => none
    let found ← outs.foldlM (fun (acc : List (Option Nat)) (out : CoreOut) => do
        (terms.zip acc).zipIdx.mapM fun ((st, done), k) => do
          match done with
          | some j => pure (some j)
          | none =>
            let bare := st.expr.stripCollate.1
            match bare.smallInteger? with
            | some i =>
              if i < 1 || i > width then
                throw (Fault.atExpr
                  s!"{ordinal (k + 1)} ORDER BY term out of range - should be between 1 and {width}"
                  bare)
              else pure (some (i.toNat - 1))
            | none =>
              let byAlias := match bare with
                | .column [] nm _ _ =>
                  (out.items.zipIdx.find? fun ((it : ResultItem), _) => it.asName.any (sameName · nm)).map (·.2)
                | _ => none
              match byAlias with
              | some j => pure (some j)
              | none => do
                let aliases := out.items.filterMap fun (it : ResultItem) =>
                  it.asName.map fun a => ResultAlias.mk a it.term it.info
                let sc : Scope := ⟨out.scopes, aliases, .allowed, false⟩
                let r ← probe (expr n { ctx with scopes := [sc] } bare)
                match r with
                | some (.column ref, _) =>
                  pure (out.items.zipIdx.findSome? fun ((it : ResultItem), j) =>
                    match it.term with
                    | .column r2 => if r2 == ref then some j else none
                    | _ => none)
                | _ => pure none) init
    (terms.zip found).zipIdx.mapM fun ((st, col), k) => do
      match col with
      | none =>
        throw (Fault.error
          s!"{ordinal (k + 1)} ORDER BY term does not match any column in the result set")
      | some j =>
        let c ← match st.expr.stripCollate.2 with
          | some nm => liftExcept (collationNamed nm)
          | none => pure (compoundCollation itemLists j)
        pure (outputKey j c st.descending st.nullsFirst)

/-- Compiles the rows of a `values`, right-most first, each checked against the width of the
row to its right once compiled. -/
def valuesRows : Nat → Ctx → List (List Expr) → Option Nat → Resolve (List (List (Term × Info)))
  | 0, _, _, _ => throw tooDeep
  | _ + 1, _, [], _ => pure []
  | n + 1, ctx, r :: rs, right => do
    let row ← r.mapM (expr n ctx)
    for (e, (_, i)) in r.zip row do needScalar e i
    if let some w := right then
      if w != r.length then throw (Fault.error "all VALUES must have the same number of terms")
    let more ← valuesRows n ctx rs (some r.length)
    pure (row :: more)

/-- Compiles a core: a `select` or a `values`; `orderBy` is the query's `order by` when the core
is the whole query's body, and `fixedLimit` its limit when that is a positive integer literal. -/
def core : Nat → Ctx → Core → Option (List SortTerm) → Option Nat → Resolve CoreOut
  | 0, _, _, _, _ => throw tooDeep
  | n + 1, ctx, .values rows _, _, _ => do
    let compiled ← valuesRows n (ctx.withScope emptyScope) rows.reverse none
    let compiled := compiled.reverse
    let firstRow := compiled.headD []
    let items := firstRow.zipIdx.map fun ((t, i), k) =>
      ResultItem.mk t { i with columnName := none } none s!"column{k + 1}" none
    pure ⟨.values (compiled.map fun r => r.map (·.1)), items, [], []⟩
  | n + 1, ctx, .select distinct columns from_ filter groupBy having windows _, orderBy, fixedLimit => do
    let fo ← fromClause n ctx from_
    let ctx := { ctx with windowDefs := windows }
    let scope0 : Scope := ⟨fo.scopes, [], .allowed, true⟩
    let ((items, keys, groupKeys, havingTerm, whereTerms, isAgg), aggs, wins, calls) ←
      withCoreState do
        let items ← resultItems n (ctx.withScope scope0) fo.scopes columns
        let isAgg := !groupBy.isEmpty || items.any (·.info.aggregate.isSome)
        let aliases := items.filterMap fun it =>
          it.asName.map fun a => ResultAlias.mk a it.term it.info
        let scope1 : Scope := ⟨fo.scopes, aliases, if isAgg then .allowed else .refused, false⟩
        let havingTerm ← match having with
          | some h => do
            if !isAgg then throw (Fault.error "HAVING clause on a non-aggregate query")
            let r ← expr n (ctx.withScope scope1) h
            needScalar h r.2
            pure (some r.1)
          | none => pure none
        let whereScope := { scope1 with aggregates := if isAgg then .late else .refused }
        let whereCtx := ctx.withScope whereScope
        let whereTerms ← match filter with
          | some w => do
            let r ← expr n whereCtx w
            needScalar w r.2
            pure [(r.1, none)]
          | none => pure []
        let joinTerms ← fo.conds.mapM fun c => match c with
          | .on e onOf => do
            let r ← expr n whereCtx e
            needScalar e r.2
            pure (r.1, onOf)
          | .eq t onOf => pure (t, onOf)
        let orderScope := { scope1 with aggregates := if isAgg then .allowed else .late,
                                        windows := true }
        let keys ← match orderBy with
          | some terms => orderKeys n { ctx with scopes := [orderScope] } items terms
          | none => pure []
        let groupScope := { scope1 with aggregates := .allowed, windows := false }
        let groupKeys ← groupTerms n { ctx with scopes := [groupScope] } items groupBy
        pure (items, keys, groupKeys, havingTerm, whereTerms ++ joinTerms, isAgg)
    let conjuncts := whereTerms.flatMap fun (t, onOf) => (splitAnd 64 t).map (·, onOf)
    let groupKeys := if !keys.isEmpty && keys.length == groupKeys.length then
        (groupKeys.zip keys).map fun (g, k) => { g with descending := k.descending, nullsFirst := !k.descending }
      else groupKeys
    let draft : SelectPlan :=
      { sources := fo.kinds, levels := [], guard := [], filter := conjuncts.map (·.1), grouped := isAgg,
        groupBy := groupKeys, groupInOrder := false, aggregates := aggs.toList,
        having := havingTerm, windows := wins.toList, windowCalls := calls.toList,
        results := items.map (·.term) ++ keys.map (·.term),
        distinct := if distinct then some (distinctCollations items) else none }
    let used := columnsRead draft fo.kinds.length
    let goal : PlanGoal :=
      if isAgg then
        if groupKeys.isEmpty then ⟨[], .none, false, items.length, none⟩
        else ⟨groupKeys, .groupBy, false, items.length, none⟩
      else if !wins.isEmpty then
        match wins.toList with
        | w :: _ => ⟨w.partition ++ w.orderBy, .orderBy, false, items.length, none⟩
        | [] => ⟨[], .none, false, items.length, none⟩
      else if !keys.isEmpty then ⟨keys, .orderBy, distinct, items.length, fixedLimit⟩
      else if distinct then
        ⟨items.map (fun it => SortKey.mk it.term (it.info.trait.collation.getD .binary) false true),
          .distinct, true, items.length, fixedLimit⟩
      else ⟨[], .none, false, items.length, fixedLimit⟩
    let (loops, satisfied) := planLoops fo.plans (conjuncts.map fun (t, o) => ⟨t, o⟩) used goal
    let (levels, finalFilter, guard) := placeTerms fo.plans loops conjuncts
    let sel : SelectPlan :=
      { draft with levels, guard, filter := finalFilter, results := items.map (·.term),
                   groupInOrder := isAgg && !groupKeys.isEmpty && satisfied == groupKeys.length }
    pure ⟨.select sel, items, fo.scopes, keys⟩

/-- Compiles the result columns of a core, expanding `*` and `t.*`. -/
def resultItems : Nat → Ctx → List ScopeSource → List ResultColumn → Resolve (List ResultItem)
  | 0, _, _, _ => throw tooDeep
  | _ + 1, _, _, [] => pure []
  | n + 1, ctx, sources, c :: cs => do
    let here ← match c with
      | .all _ =>
        pure (sources.zipIdx.flatMap fun (s, i) =>
          (s.columns.zipIdx.filter fun (col, _) =>
              !(i > 0 && s.usingNames.any (sameName · col.name))).map fun (col, k) =>
            let (t, info) := s.columnTerm 0 i k
            ResultItem.mk t info (some col.name) col.name (some col.name))
      | .allOf t _ =>
        match sources.zipIdx.find? (fun (s, _) => s.answers t) with
        | some (s, i) =>
          pure (s.columns.zipIdx.map fun (col, k) =>
            let (term, info) := s.columnTerm 0 i k
            ResultItem.mk term info (some col.name) col.name (some col.name))
        | none => throw (Fault.error s!"no such table: {t}")
      | .expr e asName text => do
        let (t, i) ← expr n ctx e
        needScalar e i
        let shown := match e with
          | .collate .. => none
          | _ => i.columnName
        pure [ResultItem.mk t i asName text shown]
    let rest ← resultItems n ctx sources cs
    pure (here ++ rest)

/-- Compiles the `order by` of a `select`: an alias or a number names a result column, any other
term is an expression of the core. A number past the result columns is reported once every term
is compiled. -/
def orderKeys : Nat → Ctx → List ResultItem → List SortTerm → Resolve (List SortKey)
  | 0, _, _, _ => throw tooDeep
  | n + 1, ctx, items, terms => do
    let keyed : List (SortKey × Option Nat) ← terms.zipIdx.mapM fun (st, k) => do
      let (bare, coll) := st.expr.stripCollate
      let explicit ← match coll with
        | some nm => do
          let c ← liftExcept (collationNamed nm)
          pure (some c)
        | none => pure none
      let keyOf (t : Term) (i : Info) : SortKey :=
        ⟨t, (explicit.orElse fun _ => i.trait.collation).getD .binary, st.descending,
          st.nullsFirst.getD !st.descending⟩
      let byAlias := match bare with
        | .column [] nm _ _ => items.find? fun (it : ResultItem) => it.asName.any (sameName · nm)
        | _ => none
      match byAlias with
      | some it => pure (keyOf it.term it.info, none)
      | none =>
        match bare.smallInteger? with
        | some i =>
          if i < 1 || i > 65535 then
            throw (Fault.atExpr
              s!"{ordinal (k + 1)} ORDER BY term out of range - should be between 1 and {items.length}"
              bare)
          else if i.toNat > items.length then pure (default, some k)
          else
            let it := items.getD (i.toNat - 1) default
            pure (keyOf it.term it.info, none)
        | none => do
          let (t, i) ← expr n ctx st.expr
          needScalar st.expr i
          pure (keyOf t i, none)
    match keyed.findSome? (·.2) with
    | some k =>
      throw (Fault.error
        s!"{ordinal (k + 1)} ORDER BY term out of range - should be between 1 and {items.length}")
    | none => pure (keyed.map (·.1))

/-- Compiles the `group by` of a `select`: a number names a result column, any other term is an
expression of the core, where a result alias is found after the columns. -/
def groupTerms : Nat → Ctx → List ResultItem → List Expr → Resolve (List SortKey)
  | 0, _, _, _ => throw tooDeep
  | n + 1, ctx, items, terms => do
    let keyed : List (SortKey × Bool × Option Nat) ← terms.zipIdx.mapM fun (e, k) => do
      let (bare, coll) := e.stripCollate
      let explicit ← match coll with
        | some nm => do
          let c ← liftExcept (collationNamed nm)
          pure (some c)
        | none => pure none
      match bare.smallInteger? with
      | some i =>
        if i < 1 || i > 65535 then
          throw (Fault.atExpr
            s!"{ordinal (k + 1)} GROUP BY term out of range - should be between 1 and {items.length}"
            bare)
        else if i.toNat > items.length then pure (default, false, some k)
        else
          let it := items.getD (i.toNat - 1) default
          pure (SortKey.mk it.term ((explicit.orElse fun _ => it.info.trait.collation).getD .binary)
            false true, it.info.aggregate.isSome, none)
      | none => do
        let (t, info) ← expr n ctx e
        needScalar e info
        pure (SortKey.mk t (info.trait.collation.getD .binary) false true, info.aggregate.isSome,
          none)
    match keyed.findSome? (·.2.2) with
    | some k =>
      throw (Fault.error
        s!"{ordinal (k + 1)} GROUP BY term out of range - should be between 1 and {items.length}")
    | none =>
      if keyed.any (·.2.1) then
        throw (Fault.error "aggregate functions are not allowed in the GROUP BY clause")
      pure (keyed.map (·.1))

/-- Compiles a `from` clause: looks up its tables, views and common table expressions, compiles
its subqueries, and collects the conditions of its joins. -/
def fromClause : Nat → Ctx → List FromTerm → Resolve FromOut
  | 0, _, _ => throw tooDeep
  | n + 1, ctx, terms => fromTerms n ctx 0 (flattenFrom 64 terms) ⟨[], [], [], []⟩

/-- Compiles the terms of a `from` clause from the `i`-th on, after those in `acc`. -/
def fromTerms : Nat → Ctx → Nat → List FlatTerm → FromOut → Resolve FromOut
  | 0, _, _, _, _ => throw tooDeep
  | _ + 1, _, _, [], acc => pure acc
  | n + 1, ctx, i, f :: fs, acc => do
    let (kind, scope, plan) ← fromSource n ctx f
    if f.join.natural && (f.on.isSome || !f.usingNames.isEmpty) then
      throw (Fault.error "a NATURAL join may not have an ON or USING clause")
    let names : List String :=
      if f.join.natural then
        scope.columns.filterMap fun c =>
          if acc.scopes.any (fun s => s.columns.any fun d => sameName d.name c.name) then some c.name
          else none
      else f.usingNames.map (·.1)
    let outer := i > 0 && (f.join.left || f.join.right)
    let onOf := if outer then some i else none
    let usingConds ← names.mapM fun nm => do
      let left := acc.scopes.zipIdx.findSome? fun (s, j) =>
        (s.columns.findIdx? fun c => sameName c.name nm).map (j, ·)
      let right := scope.columns.findIdx? (fun c => sameName c.name nm)
      match left, right with
      | some (j, kl), some kr =>
        let (tl, il) := (acc.scopes.getD j default).columnTerm 0 j kl
        let (tr, ir) := scope.columnTerm 0 i kr
        pure (JoinCond.eq (.compare .eq (il.trait.comparer ir.trait) tl tr) onOf)
      | _, _ =>
        throw (Fault.error s!"cannot join using column {nm} - column not present in both tables")
    let onConds := match f.on with
      | some e => [JoinCond.on e onOf]
      | none => []
    let scope := { scope with usingNames := names, rightJoin := f.join.right }
    fromTerms n ctx (i + 1) fs
      { kinds := acc.kinds ++ [kind], scopes := acc.scopes ++ [scope],
        plans := acc.plans ++ [plan], conds := acc.conds ++ usingConds ++ onConds }

/-- Compiles one source of a `from` clause. -/
def fromSource : Nat → Ctx → FlatTerm → Resolve (SourceKind × ScopeSource × PlanSource)
  | 0, _, _ => throw tooDeep
  | n + 1, ctx, f => do
    match f.source with
    | .subquery q => do
      let out ← query n ctx q
      pure (.query out.plan, derivedScope (namedColumnsOf out.columns []) f.asName,
        ⟨none, true, f.join, f.hint, false⟩)
    | .call name _ _ => throw (Fault.error s!"no such table: {name}")
    | .nested _ => throw (Fault.error "no tables specified")
    | .table schema name _ => do
      let qualified := match schema with
        | some s => s ++ "." ++ name
        | none => name
      let mainSchema := match schema with
        | some s => sameName s "main"
        | none => true
      let asName := f.asName.getD name
      match (if schema.isNone then ctx.working.find? (fun (nm, _, _) => sameName nm name)
          else none) with
      | some (_, id, cols) =>
        pure (.working id, derivedScope cols (some asName), ⟨none, true, f.join, f.hint, true⟩)
      | none =>
        match (if schema.isNone then ctx.expanding.find? (fun (nm, _) => sameName nm name)
            else none) with
        | some (nm, msg) => throw (Fault.error (msg ++ nm))
        | none =>
          match (if schema.isNone then ctx.ctes.find? fun c => sameName c.name name else none) with
          | some c => cteSource n ctx c f asName
          | none =>
            if !mainSchema then throw (Fault.error s!"no such table: {qualified}")
            else if isSchemaName name then
              pure (.table "sqlite_master",
                { names := if f.asName.isSome then [asName] else ["sqlite_master", "sqlite_schema"],
                  columns := schemaColumns, rowid := some none, usingNames := [],
                  rightJoin := false },
                ⟨none, false, f.join, f.hint, false⟩)
            else
              match ctx.store.table? name with
              | some t => do
                match f.hint with
                | .indexedBy ix =>
                  if (t.index? ix).isNone then throw (Fault.error s!"no such index: {ix}")
                | _ => pure ()
                pure (.table t.name, tableScope t f.asName, ⟨some t, false, f.join, f.hint, false⟩)
              | none =>
                match ctx.store.view? name with
                | some v => do
                  let vctx : Ctx := { store := ctx.store, scopes := [], ctes := [],
                                      expanding := ctx.expanding, working := [] }
                  let out ← query n vctx v.query
                  if !v.columns.isEmpty && v.columns.length != out.columns.length then
                    throw (Fault.error
                      s!"expected {v.columns.length} columns for '{v.name}' but got {out.columns.length}")
                  pure (.query out.plan,
                    derivedScope (namedColumnsOf out.columns v.columns) (some asName),
                    ⟨none, true, f.join, f.hint, false⟩)
                | none => throw (Fault.error s!"no such table: {qualified}")

/-- Compiles a reference to a common table expression: its query, recursive when the parts of a
compound after its first that read the expression itself in their `from` clause are joined by
`union` or `union all`. -/
def cteSource : Nat → Ctx → CteDef → FlatTerm → String →
    Resolve (SourceKind × ScopeSource × PlanSource)
  | 0, _, _, _, _ => throw tooDeep
  | n + 1, ctx, c, f, asName => do
    let seen := ctx.ctes.drop (ctx.ctes.length - c.visible)
    let base : Ctx := { ctx with ctes := seen, scopes := [] }
    let q := c.query
    let cores := compoundCores q.body
    let readsSelf (core : Core) : Bool := match core with
      | .select _ _ from_ _ _ _ _ _ =>
        (flattenFrom 64 from_).any fun t => match t.source with
          | .table none nm _ => sameName nm c.name
          | _ => false
      | .values .. => false
    let lastOp := cores.getLast?.bind (·.1)
    let mayRecurse := lastOp == some .union || lastOp == some .unionAll
    let recursiveCount :=
      if mayRecurse then
        (cores.reverse.takeWhile fun (op, core) => op == lastOp && readsSelf core).length
      else 0
    if recursiveCount == 0 then do
      let msg := if mayRecurse then "recursive reference in a subquery: " else "circular reference: "
      let out ← query n { base with expanding := (c.name, msg) :: base.expanding } q
      if !c.columns.isEmpty && c.columns.length != out.columns.length then
        throw (Fault.error
          s!"table {c.name} has {out.columns.length} values for {c.columns.length} columns")
      pure (.query out.plan, derivedScope (namedColumnsOf out.columns c.columns) (some asName),
        ⟨none, true, f.join, f.hint, false⟩)
    else do
      let setupCores := cores.take (cores.length - recursiveCount)
      let stepCores := cores.drop (cores.length - recursiveCount)
      let setupCtx := { base with expanding := (c.name, "circular reference: ") :: base.expanding }
      let setup ← query n setupCtx ⟨q.ctes, rebuild setupCores, [], none, none⟩
      if !c.columns.isEmpty && c.columns.length != setup.columns.length then
        throw (Fault.error
          s!"table {c.name} has {setup.columns.length} values for {c.columns.length} columns")
      let cols := namedColumnsOf setup.columns c.columns
      let st ← get
      let id := st.nextId
      set { st with nextId := id + 1 }
      let stepCtx := { base with
        expanding := (c.name, "multiple recursive references: ") :: base.expanding,
        working := (c.name, id, cols) :: base.working }
      let stepBody := rebuild (stepCores.map fun (_, core) => (some CompoundOp.unionAll, core))
      let step ← query n stepCtx ⟨q.ctes, stepBody, [], none, none⟩
      if step.columns.length != setup.columns.length then
        throw (Fault.error
          s!"SELECTs to the left and right of {(lastOp.getD .union).word} do not have the same number of result columns")
      let outs : List CoreOut := [⟨default, setup.columns.map fun col =>
          ResultItem.mk default col.first none col.name none, [], []⟩]
      let keys ← compoundKeys n base outs q.orderBy
      let limitCtx : Ctx := { base with scopes := [emptyScope] }
      let limit ← match q.limit with
        | some e => do
          let r ← expr n limitCtx e
          pure (some r.1)
        | none => pure none
      let offset ← match q.offset with
        | some e => do
          let r ← expr n limitCtx e
          pure (some r.1)
        | none => pure none
      pure (.recursive id setup.plan step.plan (lastOp == some .unionAll) keys limit offset,
        derivedScope cols (some asName), ⟨none, true, f.join, f.hint, false⟩)

/-- Checks that the tables the `from` clauses of a compound name exist, right-most core first,
each `from` term in turn (descending into subqueries and common table expressions), then its
`*` columns, before any name in them is compiled. -/
def checkTables : Nat → Ctx → Compound → Except Fault Unit
  | 0, _, _ => pure ()
  | n + 1, ctx, body => do
    for (_, c) in (compoundCores body).reverse do
      match c with
      | .select _ columns from_ _ _ _ _ _ =>
        let flat := flattenFrom 64 from_
        for f in flat do
          match f.source with
          | .table schema name _ =>
            let mainSchema := match schema with
              | some s => sameName s "main"
              | none => true
            let known := schema.isNone &&
              (ctx.working.any (fun (nm, _, _) => sameName nm name) ||
               ctx.expanding.any (fun (nm, _) => sameName nm name))
            let cte := if schema.isNone then ctx.ctes.find? (fun d => sameName d.name name) else none
            if known then pure ()
            else match cte with
              | some d =>
                let seen := ctx.ctes.drop (ctx.ctes.length - d.visible)
                let inner := { ctx with ctes := seen, expanding := (d.name, "") :: ctx.expanding }
                checkTables n inner d.query.body
              | none =>
                if !mainSchema || (!isSchemaName name && (ctx.store.table? name).isNone &&
                    (ctx.store.view? name).isNone) then
                  let qualified := match schema with
                    | some s => s ++ "." ++ name
                    | none => name
                  throw (Fault.error s!"no such table: {qualified}")
          | .subquery q => checkTables n ctx q.body
          | _ => pure ()
        if flat.isEmpty && columns.any (fun r => match r with | .all _ => true | _ => false) then
          throw (Fault.error "no tables specified")
        for r in columns do
          match r with
          | .allOf t _ =>
            let names := flat.map fun f => match f.asName, f.source with
              | some a, _ => a
              | none, .table _ nm _ => nm
              | none, _ => ""
            if !names.any (sameName · t) then throw (Fault.error s!"no such table: {t}")
          | _ => pure ()
      | .values .. => pure ()

end

/-- Compiles a query against a store, reporting a failure that only generating its code would
find once it otherwise compiles. -/
def compileQuery (store : Store) (q : Select) : Except Fault QueryOut := do
  let ctx : Ctx := { store, scopes := [], ctes := [], expanding := [], working := [] }
  let (out, st) ← (query compileFuel ctx q).run {}
  match st.late with
  | some f => throw f
  | none => pure out

end RecordMap.Sql
