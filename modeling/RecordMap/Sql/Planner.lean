import RecordMap.Sql.Planner.Path

/-!
# Planning the loops of a query

The rows a query returns do not depend on its plan, only the order in which they come does.
`planLoops` decides that order: which source each loop of the join visits, outermost first, and
in which order each loop visits its rows.
-/

namespace RecordMap.Sql

/-- The order an index the query builds for a source visits its rows in, once the sources in
`ready` are visited: keyed on the columns the equalities that can key it bind (each column once,
in the order of the conditions, under the comparison's collation), then on the other columns the
query reads of the source, then by rowid. -/
def automaticVisit (ctx : LoopCtx) (i : Nat) (ready : SourceSet) : Visit :=
  let notReady := SourceSet.diff ((1 <<< ctx.sources.length) - 1) ready
  let keys := ctx.terms.toList.foldl (fun (acc : List (Nat × Collation)) w =>
    if !ctx.drivesAutomatic i notReady w then acc
    else
      match w.column with
      | some (_, some k) => if acc.any (·.1 == k) then acc else acc ++ [(k, w.comparer.collation)]
      | _ => acc) []
  let extra := ((ctx.used.getD i []).filterMap id).filter (fun k => !keys.any (·.1 == k))
  .auto keys (extra.mergeSort (· ≤ ·)).eraseDups

/-- How a chosen loop visits its source. -/
def visitOf (ctx : LoopCtx) (l : Loop) (ready : SourceSet) : Visit :=
  match l.reach with
  | .rowid => .stored
  | .index p =>
    match p.index with
    | some ix => .index ix.name
    | none => .stored
  | .automatic => automaticVisit ctx l.source ready

/-- The loops of a query, outermost first, and how many of the goal's sort keys their order
already satisfies. The cheapest nesting is found ignoring the order, and when there are sort
keys found again weighing the cost of sorting the rows that estimate gives. When the order
satisfies no key and the innermost loop alone would satisfy them all, that loop runs in the
direction the keys want. -/
def planLoops (sources : List PlanSource) (conds : List PlanTerm) (used : List (List (Option Nat)))
    (goal : PlanGoal) : List LoopChoice × Nat :=
  let terms := analyzeTerms sources conds
  let goal := if goal.kind == .distinct && distinctRedundant sources terms goal.keys then
      { goal with keys := [], kind := .none }
    else goal
  let ctx : LoopCtx := ⟨sources, terms, used, goal⟩
  let ask : OrderAsk := match goal.kind with
    | .groupBy => .grouped
    | .distinct => .distinct
    | _ => .sorted
  let pctx : PathCtx := ⟨⟨sources, terms, goal.keys⟩, goal, ask, allLoops ctx, sources.length⟩
  let fallback := ((List.range sources.length).map fun i => ⟨i, .stored, false⟩, 0)
  match pctx.solve 0 with
  | none => fallback
  | some first =>
    let best := if goal.keys.isEmpty then first else (pctx.solve (first.rows + 1)).getD first
    let satisfied := if best.ordered ≤ 0 then 0 else best.ordered.toNat
    let reversed :=
      if ask != .sorted || goal.keys.isEmpty then (if ask == .grouped then best.reversed else 0)
      else if satisfied > 0 then best.reversed
      else
        match best.loops.getLast? with
        | some l =>
          if l.oneRow || (l.byRowid && l.membership) then best.reversed
          else
            let (n, m) := orderedKeys pctx.order .innermost best.loops.dropLast l
            if n == goal.keys.length then m else best.reversed
        | none => best.reversed
    let choices := best.loops.zipIdx.map fun (l, k) =>
      let ready := SourceSet.ofList ((best.loops.take k).map (·.source))
      (⟨l.source, visitOf ctx l ready, reversed.testBit k⟩ : LoopChoice)
    (choices, satisfied)

/-- The conjuncts of a condition: the operands of its top-level `and`s, left to right. -/
def splitAnd : Nat → Term → List Term
  | 0, t => [t]
  | n + 1, .and l r => splitAnd n l ++ splitAnd n r
  | _ + 1, t => [t]

/-- The columns of each of `count` sources that a core reads, none standing for the rowid. -/
def columnsRead (s : SelectPlan) (count : Nat) : List (List (Option Nat)) :=
  let reads := s.reads walkFuel 0
  (List.range count).map fun i => (reads.filterMap fun (j, c) => if j == i then some c else none).eraseDups

/-- The sources whose columns may be null for want of a row: the right side of a left join, and
every source to the left of a right join. -/
def nullableSources (sources : List PlanSource) : List Nat :=
  (List.range sources.length).filter fun i =>
    (i > 0 && (sources.getD i default).join.left) ||
      ((sources.drop (i + 1)).any fun s => s.join.right)

/-- Places the conditions of a core on its loops: the `on` conditions of an outer join on the
loop of its right source; a `where` condition that reads no source before the loops, once; one
that reads a source that may be null for want of a row, or any `where` condition when there is
a right join, after the loops; any other on the first loop where every source it reads is bound.
The result is the loops, the conditions after them and the conditions before them. -/
def placeTerms (sources : List PlanSource) (loops : List LoopChoice)
    (conds : List (Term × Option Nat)) : List Level × List Term × List Term :=
  let nullable := nullableSources sources
  let anyRight := sources.any (·.join.right)
  let position (src : Nat) : Nat := (loops.findIdx? (·.source == src)).getD 0
  let constant (t : Term) : Bool := t.sources.isEmpty
  let deferred (t : Term) : Bool := !constant t && (anyRight || t.sources.any (nullable.contains ·))
  let levelOf (t : Term) : Nat := t.sources.foldl (fun m s => max m (position s)) 0
  let levels := loops.zipIdx.map fun (l, p) =>
    let src := sources.getD l.source default
    { source := l.source, visit := l.visit, reverse := l.reverse
      on := conds.filterMap fun (t, o) => if o == some l.source then some t else none
      filter := conds.filterMap fun (t, o) =>
        if o.isNone && !constant t && !deferred t && levelOf t == p then some t else none
      outer := l.source > 0 && src.join.left
      rightJoin := l.source > 0 && src.join.right : Level }
  let final := conds.filterMap fun (t, o) => if o.isNone && deferred t then some t else none
  let guard := conds.filterMap fun (t, o) => if o.isNone && constant t then some t else none
  (levels, final, guard)

end RecordMap.Sql
