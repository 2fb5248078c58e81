import RecordMap.Sql.Planner.Order

/-!
# Choosing the nesting of the loops

A path is a choice of loops, one per source, outermost first. Paths are built one loop deeper at
a time, keeping at each depth only a few of the cheapest: one for a single source, five for two,
ten for more. A path's cost adds the cost of running each loop once per row of the loops
outside it, plus a loop's one-time setup, plus the cost of sorting the rows afterwards by the
keys the path's order does not already satisfy (with a small penalty, so that an order that
needs no sort wins a tie).

Two paths over the same sources compete for one place when both know, or both do not yet know,
how far their order goes; the cheaper stays, ties going to fewer rows. When every place is
taken, a new path enters only by beating the worst one kept.

The whole search runs twice when rows are to be sorted: first ignoring the order, which
estimates how many rows the query yields, and then weighing the sort with that estimate.
-/

namespace RecordMap.Sql

/-- A partial plan: its loops, outermost first, and what they are estimated to give and cost. -/
structure Path where
  loops : List Loop
  sources : SourceSet
  /-- The places of the loops that run backwards. -/
  reversed : SourceSet
  rows : LogEst
  cost : LogEst
  /-- The cost without sorting. -/
  unsorted : LogEst
  /-- How many sort keys the order satisfies, or -1 while that is not known. -/
  ordered : Int
  deriving Inhabited

/-- The best paths kept at one depth, with the place and the cost and rows of the worst of
them, once every place is taken. -/
structure Frontier where
  paths : Array Path
  worst : Nat
  worstCost : LogEst
  worstUnsorted : LogEst
  deriving Inhabited

/-- What the search for a plan is given. -/
structure PathCtx where
  order : OrderCtx
  goal : PlanGoal
  ask : OrderAsk
  loops : List Loop
  /-- How many sources the query has. -/
  depth : Nat

namespace PathCtx

/-- How many paths are kept at each depth. -/
def choices (ctx : PathCtx) : Nat := if ctx.depth ≤ 1 then 1 else if ctx.depth == 2 then 5 else 10

/-- Records a path at a place of the frontier and finds its new worst path once every place is
taken. -/
def place (ctx : PathCtx) (f : Frontier) (k : Nat) (p : Path) : Frontier :=
  let paths := if k < f.paths.size then f.paths.set! k p else f.paths.push p
  if paths.size < ctx.choices then { f with paths }
  else
    let first := paths.getD 0 default
    let (worst, worstCost, worstUnsorted) := (List.range paths.size).foldl
      (fun (acc : Nat × LogEst × LogEst) j =>
        if j == 0 then acc
        else
          let q := paths.getD j default
          if q.cost > acc.2.1 || (q.cost == acc.2.1 && q.unsorted > acc.2.2) then (j, q.cost, q.unsorted)
          else acc) (0, first.cost, first.rows)
    { paths, worst, worstCost, worstUnsorted }

/-- Offers the path `p` extended by loop `l` at depth `depth`, with `rowEstimate` the estimated
rows of the query (0 to ignore the order). -/
def extend (ctx : PathCtx) (rowEstimate : LogEst) (depth : Nat) (f : Frontier) (p : Path) (l : Loop) :
    Frontier :=
  let self := SourceSet.single l.source
  if !SourceSet.sub l.needs p.sources || !SourceSet.disjoint self p.sources then f
  else if l.automatic && p.rows < 3 then f
  else
    let keyCount := if rowEstimate == 0 then 0 else ctx.goal.keys.length
    let unsorted := LogEst.add (LogEst.add l.setup (l.run + p.rows)) p.unsorted
    let rows := p.rows + l.rows
    let sources := p.sources ||| self
    let (ordered, reversed) :=
      if p.ordered < 0 then orderedKeys ctx.order ctx.ask p.loops l else (p.ordered, p.reversed)
    let (cost, unsorted) :=
      if 0 ≤ ordered && ordered < keyCount then
        (LogEst.add unsorted (sortingCost ctx.goal rowEstimate ordered.toNat) + 3, unsorted)
      else (unsorted, unsorted - 2)
    let (cost, rows) :=
      if depth == 0 && l.derivedScan && ctx.depth > 1 then (cost - 10, rows - 30) else (cost, rows)
    let candidate : Path := ⟨p.loops ++ [l], sources, reversed, rows, cost, unsorted, ordered⟩
    match f.paths.toList.findIdx? (fun q => q.sources == sources && (q.ordered < 0) == (ordered < 0)) with
    | none =>
      if f.paths.size ≥ ctx.choices &&
          (cost > f.worstCost || (cost == f.worstCost && unsorted ≥ f.worstUnsorted)) then f
      else ctx.place f (if f.paths.size < ctx.choices then f.paths.size else f.worst) candidate
    | some k =>
      let q := f.paths.getD k default
      if q.cost < cost || (q.cost == cost && (q.rows < rows || (q.rows == rows && q.unsorted ≤ unsorted)))
      then f
      else ctx.place f k candidate

/-- The paths one loop deeper than `paths`. -/
def deeper (ctx : PathCtx) (rowEstimate : LogEst) (depth : Nat) (paths : List Path) : List Path :=
  let f := paths.foldl (fun f p => ctx.loops.foldl (fun f l => ctx.extend rowEstimate depth f p l) f)
    ⟨#[], 0, 0, 0⟩
  f.paths.toList

/-- The cheapest path through every source, the first of the cheapest on a tie; none when no
nesting of the loops meets what each loop needs. -/
def solve (ctx : PathCtx) (rowEstimate : LogEst) : Option Path :=
  let keyCount := if rowEstimate == 0 then 0 else ctx.goal.keys.length
  let start : Path :=
    { loops := [], sources := 0, reversed := 0, rows := 0, cost := 0, unsorted := 0,
      ordered := if keyCount > 0 then (if ctx.depth > 0 then -1 else keyCount) else 0 }
  let final := (List.range ctx.depth).foldl (fun paths d => ctx.deeper rowEstimate d paths) [start]
  final.foldl (fun (best : Option Path) p =>
    match best with
    | none => some p
    | some b => if b.cost > p.cost then some p else best) none

end PathCtx

end RecordMap.Sql
