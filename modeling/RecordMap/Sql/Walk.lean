import RecordMap.Sql.Plan

/-!
# Which columns a compiled term reads

`Term.reads fuel d t` lists the columns of the query `d` levels out that `t` reads, as pairs of
a source and a column (none for the rowid). It looks inside subqueries, where the same query is
one level further out, so that a correlated subquery counts as reading the columns it is
correlated on.

The walk is bounded by `fuel`, which each step into a part of a term or query uses up; a term
compiled from a statement is far smaller than the fuel its callers give.
-/

namespace RecordMap.Sql

mutual

/-- The columns of the query `d` levels out that a term reads. -/
def Term.reads : Nat → Nat → Term → List (Nat × Option Nat)
  | 0, _, _ => []
  | n + 1, d, t =>
    match t with
    | .value _ | .param _ | .aggregate _ | .window _ => []
    | .column r => if r.depth == d then [(r.source, r.column)] else []
    | .plus a | .negate a | .bitNot a | .not a | .isNull _ a | .cast _ a | .truth _ _ a =>
      Term.reads n d a
    | .arith _ a b | .bits _ a b | .concat a b | .compare _ _ a b | .compareRows _ _ a b
    | .and a b | .or a b => Term.reads n d a ++ Term.reads n d b
    | .between _ _ _ a b c => Term.reads n d a ++ Term.reads n d b ++ Term.reads n d c
    | .inList _ _ a items => Term.reads n d a ++ Term.readsAll n d items
    | .inQuery _ _ a q => Term.reads n d a ++ QueryPlan.reads n (d + 1) q
    | .cases o arms e =>
      (match o with
        | some a => Term.reads n d a
        | none => []) ++
      CaseArm.readsAll n d arms ++
      (match e with
        | some a => Term.reads n d a
        | none => [])
    | .call _ _ args | .coalesce args | .row args | .failure _ args => Term.readsAll n d args
    | .iif a b c => Term.reads n d a ++ Term.reads n d b ++ Term.reads n d c
    | .exists q | .scalar q => QueryPlan.reads n (d + 1) q
    | .raise _ m => Term.reads n d m

/-- The columns some terms read. -/
def Term.readsAll : Nat → Nat → List Term → List (Nat × Option Nat)
  | 0, _, _ => []
  | _ + 1, _, [] => []
  | n + 1, d, t :: ts => Term.reads n d t ++ Term.readsAll n d ts

/-- The columns the arms of a `case` read. -/
def CaseArm.readsAll : Nat → Nat → List CaseArm → List (Nat × Option Nat)
  | 0, _, _ => []
  | _ + 1, _, [] => []
  | n + 1, d, a :: as => Term.reads n d a.test ++ Term.reads n d a.result ++ CaseArm.readsAll n d as

/-- The columns some sort keys read. -/
def SortKey.readsAll : Nat → Nat → List SortKey → List (Nat × Option Nat)
  | 0, _, _ => []
  | _ + 1, _, [] => []
  | n + 1, d, k :: ks => Term.reads n d k.term ++ SortKey.readsAll n d ks

/-- The columns a query reads of the query `d` levels out from it. -/
def QueryPlan.reads : Nat → Nat → QueryPlan → List (Nat × Option Nat)
  | 0, _, _ => []
  | n + 1, d, q =>
    CompoundPlan.reads n d q.body ++ SortKey.readsAll n d q.orderBy ++
      (match q.limit with
        | some t => Term.reads n d t
        | none => []) ++
      (match q.offset with
        | some t => Term.reads n d t
        | none => [])

/-- The columns the cores of a compound read. -/
def CompoundPlan.reads : Nat → Nat → CompoundPlan → List (Nat × Option Nat)
  | 0, _, _ => []
  | n + 1, d, .core c => CorePlan.reads n d c
  | n + 1, d, .join _ l r _ => CompoundPlan.reads n d l ++ CorePlan.reads n d r

/-- The columns a core reads. -/
def CorePlan.reads : Nat → Nat → CorePlan → List (Nat × Option Nat)
  | 0, _, _ => []
  | n + 1, d, .values rows => RowsReads n d rows
  | n + 1, d, .select s => SelectPlan.reads n d s

/-- The columns the rows of a `values` read. -/
def RowsReads : Nat → Nat → List (List Term) → List (Nat × Option Nat)
  | 0, _, _ => []
  | _ + 1, _, [] => []
  | n + 1, d, r :: rs => Term.readsAll n d r ++ RowsReads n d rs

/-- The columns a `select` core reads. -/
def SelectPlan.reads : Nat → Nat → SelectPlan → List (Nat × Option Nat)
  | 0, _, _ => []
  | n + 1, d, s =>
    SourceKind.readsAll n d s.sources ++ Level.readsAll n d s.levels ++ Term.readsAll n d s.guard ++ Term.readsAll n d s.filter ++
      SortKey.readsAll n d s.groupBy ++ AggregateCall.readsAll n d s.aggregates ++
      (match s.having with
        | some t => Term.reads n d t
        | none => []) ++
      WindowDef.readsAll n d s.windows ++ WindowCall.readsAll n d s.windowCalls ++
      Term.readsAll n d s.results

/-- The columns the sources of a core read. -/
def SourceKind.readsAll : Nat → Nat → List SourceKind → List (Nat × Option Nat)
  | 0, _, _ => []
  | _ + 1, _, [] => []
  | n + 1, d, k :: ks =>
    (match k with
      | .query q => QueryPlan.reads n d q
      | .recursive _ a b _ _ _ _ => QueryPlan.reads n d a ++ QueryPlan.reads n d b
      | _ => []) ++ SourceKind.readsAll n d ks

/-- The columns the conditions of some levels read. -/
def Level.readsAll : Nat → Nat → List Level → List (Nat × Option Nat)
  | 0, _, _ => []
  | _ + 1, _, [] => []
  | n + 1, d, l :: ls => Term.readsAll n d l.on ++ Term.readsAll n d l.filter ++ Level.readsAll n d ls

/-- The columns some aggregate calls read. -/
def AggregateCall.readsAll : Nat → Nat → List AggregateCall → List (Nat × Option Nat)
  | 0, _, _ => []
  | _ + 1, _, [] => []
  | n + 1, d, a :: as =>
    Term.readsAll n d a.args ++ SortKey.readsAll n d a.orderBy ++
      (match a.filter with
        | some t => Term.reads n d t
        | none => []) ++ AggregateCall.readsAll n d as

/-- The columns some windows read. -/
def WindowDef.readsAll : Nat → Nat → List WindowDef → List (Nat × Option Nat)
  | 0, _, _ => []
  | _ + 1, _, [] => []
  | n + 1, d, w :: ws =>
    SortKey.readsAll n d w.partition ++ SortKey.readsAll n d w.orderBy ++ WindowDef.readsAll n d ws

/-- The columns some window calls read. -/
def WindowCall.readsAll : Nat → Nat → List WindowCall → List (Nat × Option Nat)
  | 0, _, _ => []
  | _ + 1, _, [] => []
  | n + 1, d, w :: ws =>
    Term.readsAll n d w.args ++
      (match w.filter with
        | some t => Term.reads n d t
        | none => []) ++ WindowCall.readsAll n d ws

end

/-- The fuel a walk over a compiled statement is given. -/
def walkFuel : Nat := 100000

/-- The sources of the query itself that a term reads. -/
def Term.sources (t : Term) : List Nat := ((t.reads walkFuel 0).map (·.1)).eraseDups

end RecordMap.Sql
