import RecordMap.Sql.Planner.Constraint

/-!
# The ways to visit one source

For each source the planner lists the loops that could visit it, each with the sources that
must be visited outside it, a one-time cost, the cost of one run, and the rows one run yields:

* every row, in the order the table keeps them, or through the entries of an index that holds
  every column the query reads and is narrower than the table's rows;
* the rows an index search (or a rowid search) finds when its key is bound, part after part, by
  equalities, memberships or nullness and then by at most one range;
* the rows an index the query builds for itself finds, keyed on a column an equality binds to
  something computed outside the loop.

A loop is kept only if no loop of the same source with the same bearing on the wanted order is
at least as good in every respect; a loop that would supplant one already kept replaces it, and
every later one it also supplants.

The estimates are those of a table taken to hold about a million rows: a full scan costs three
reads a row, a search the logarithm of the rows plus a read for each row found, and a search
through an index that does not hold every column read one more lookup in the table for each row
found. A condition a loop does not use but can check removes one tenth of a factor of two of its
rows; an equality it cannot use is taken to leave a fourth of them at most, a half when what it
compares with is a small integer.
-/

namespace RecordMap.Sql

/-- How a loop reaches the rows of its source. -/
inductive Reach where
  /-- By the rowid, or every row in the order the source keeps them. -/
  | rowid
  /-- By an index of the table. -/
  | index (probe : Probe)
  /-- By an index the query builds for itself. -/
  | automatic
  deriving Inhabited

/-- A way to visit one source, with what it needs and what it is estimated to cost. -/
structure Loop where
  source : Nat
  reach : Reach
  /-- The sources whose loops must run outside this one. -/
  needs : SourceSet
  /-- The one-time cost: building an index the query makes for itself. -/
  setup : LogEst
  /-- The cost of one run of the loop. -/
  run : LogEst
  /-- The rows one run yields. -/
  rows : LogEst
  /-- The conditions that bound it, in the order of the key parts they bind. -/
  terms : List Nat
  /-- How many key parts are bound by equalities, memberships or nullness. -/
  points : Nat
  lowerBound : Bool
  upperBound : Bool
  equality : Bool
  membership : Bool
  nullness : Bool
  range : Bool
  /-- Whether the index holds every column the query reads of the source. -/
  covering : Bool
  /-- Whether a run yields at most one row. -/
  oneRow : Bool
  /-- Whether it scans all a subquery's rows. -/
  derivedScan : Bool
  /-- Which key could give the order the query wants, or 0: loops with different ones are
  weighed apart. -/
  sortIdx : Nat
  deriving Inhabited

namespace Loop

/-- Whether the loop searches a key of the table, the rowid or an index. -/
def indexed (l : Loop) : Bool :=
  match l.reach with
  | .index _ => true
  | _ => false

/-- Whether the loop reaches its rows by the rowid. -/
def byRowid (l : Loop) : Bool :=
  match l.reach with
  | .rowid => true
  | _ => false

/-- Whether the loop uses an index the query builds for itself. -/
def automatic (l : Loop) : Bool :=
  match l.reach with
  | .automatic => true
  | _ => false

/-- The probe a loop searches, when it searches an index. -/
def probe? (l : Loop) : Option Probe :=
  match l.reach with
  | .index p => some p
  | _ => none

/-- Whether `x` bounds its source by fewer conditions than `y`, all of them also `y`'s, without
costing more and yielding more rows at once, and holds every column only if `y` does. -/
def cheaperSubset (x y : Loop) : Bool :=
  x.terms.length < y.terms.length && !(x.run > y.run && x.rows > y.rows) &&
    x.terms.all (y.terms.contains ·) && !(x.covering && !y.covering)

end Loop

/-- Brings the estimates of an index loop in line with the index loops of its source already
kept: a loop that uses more conditions than another is taken to be no worse than it, and one
that uses fewer no better. -/
def adjustCost (kept : List Loop) (l : Loop) : Loop :=
  if !l.indexed then l
  else
    kept.foldl (fun l p =>
      if p.source != l.source || !p.indexed then l
      else if p.cheaperSubset l then { l with run := min p.run l.run, rows := min (p.rows - 1) l.rows }
      else if l.cheaperSubset p then { l with run := max p.run l.run, rows := max (p.rows + 1) l.rows }
      else l) l

/-- What to do with a new loop, given those kept. -/
inductive Verdict where
  /-- A kept loop is as good: drop the new one. -/
  | drop
  /-- The new loop supplants the kept one at a place. -/
  | replace (place : Nat)
  /-- Keep the new loop after all others. -/
  | append
  deriving Inhabited

/-- Weighs a new loop against the kept ones, from the first: loops of another source or with
another bearing on the order are not compared; an index loop with an equality supplants an
index the query builds for itself that needs all it needs; a kept loop that needs no more,
costs no more and yields no more rows makes the new one useless; one the new loop matches in
all of that is supplanted. -/
def verdict (kept : List Loop) (l : Loop) : Verdict :=
  let rec go : List (Loop × Nat) → Verdict
    | [] => .append
    | (p, k) :: rest =>
      if p.source != l.source || p.sortIdx != l.sortIdx then go rest
      else if p.automatic && l.indexed && l.equality && SourceSet.sub l.needs p.needs then .replace k
      else if SourceSet.sub p.needs l.needs && p.setup ≤ l.setup && p.run ≤ l.run && p.rows ≤ l.rows then
        .drop
      else if SourceSet.sub l.needs p.needs && p.run ≥ l.run && p.rows ≥ l.rows then .replace k
      else go rest
  go kept.zipIdx

/-- Removes from loops kept after a supplanted one those the new loop also supplants, up to the
first that makes it useless. -/
def pruneAfter (l : Loop) : Nat → List Loop → List Loop
  | 0, rest => rest
  | fuel + 1, rest =>
    match verdict rest l with
    | .replace k => rest.take k ++ pruneAfter l fuel (rest.drop (k + 1))
    | _ => rest

/-- Adds a loop to those kept. -/
def insertLoop (kept : List Loop) (l : Loop) : List Loop :=
  let l := adjustCost kept l
  match verdict kept l with
  | .drop => kept
  | .append => kept ++ [l]
  | .replace k => kept.take k ++ [l] ++ pruneAfter l (kept.length - k) (kept.drop (k + 1))

/-- What the loops of a query are weighed against. -/
structure LoopCtx where
  sources : List PlanSource
  terms : Array WhereTerm
  /-- The columns the query reads of each source, none for the rowid. -/
  used : List (List (Option Nat))
  goal : PlanGoal

namespace LoopCtx

/-- Whether a source is the right side of an outer join, or stands left of a right join: only
its own `on` conditions may bound its loop. -/
def joinBound (ctx : LoopCtx) (i : Nat) : Bool :=
  let s := ctx.sources.getD i default
  (i > 0 && (s.join.left || s.join.right)) || (ctx.sources.drop (i + 1)).any (·.join.right)

/-- Whether a condition may bound a loop of source `i`. -/
def mayBound (ctx : LoopCtx) (i : Nat) (w : WhereTerm) : Bool :=
  !ctx.joinBound i || w.onOf == some i

/-- Lowers the rows a loop yields by the conditions it can check but does not use, and caps them
by the equalities among those. -/
def adjustRows (ctx : LoopCtx) (l : Loop) (tableRows : LogEst) : Loop :=
  let self := SourceSet.single l.source
  let allowed := l.needs ||| self
  let (rows, reduce) := ctx.terms.toList.zipIdx.foldl (fun (acc : LogEst × LogEst) (w, i) =>
    let (rows, reduce) := acc
    if w.derived || !SourceSet.sub w.reads allowed || SourceSet.disjoint w.reads self ||
        checkedBy ctx.terms l.terms i then acc
    else
      let k : LogEst := if w.smallInteger then 10 else 20
      match w.bound with
      | some b => if b.isEquality then (rows - 1, max reduce k) else (rows - 1, reduce)
      | none => (rows - 1, reduce)) (l.rows, 0)
  { l with rows := if rows > tableRows - reduce then tableRows - reduce else rows }

/-- Whether the sort keys could use a probe of source `i`: one of them is its rowid, or a
column of the probe's key. -/
def mightOrder (ctx : LoopCtx) (i : Nat) (p : Probe) : Bool :=
  ctx.goal.keys.any fun k =>
    match k.term.ownColumn? with
    | some (s, none) => s == i
    | some (s, some c) => s == i && (p.parts.take p.keyCount).contains (.column c)
    | none => false

/-- Whether every column of source `i` that a condition reads is among the parts of a probe. -/
def coveredBy (i : Nat) (p : Probe) (w : WhereTerm) : Bool :=
  (w.term.reads walkFuel 0).all fun (s, c) =>
    s != i || match c with
      | none => p.parts.contains .rowid
      | some k => p.parts.contains (.column k)

/-- Whether an index of the table holds every column the query reads of source `i`. -/
def covers (ctx : LoopCtx) (i : Nat) (p : Probe) : Bool :=
  p.covering || (ctx.used.getD i []).all fun c =>
    match c with
    | none => true
    | some k => p.parts.contains (.column k)

end LoopCtx

/-- Whether a comparison made under an affinity can search an index on a column of another. -/
def Affinity.searches (comparison column : Affinity) : Bool :=
  match comparison with
  | .none | .blob => true
  | .text => column == .text
  | _ => column.isNumeric

/-- The rows a range of a key is taken to hold, of `rows`: a fourth for each bound other than
`x > null`, and a fourth more when bounded on both sides; at least one each bound fewer than
`rows`, and never fewer than two. -/
def rangeRows (rows : LogEst) (lower upper : Option WhereTerm) : LogEst :=
  let cut (w : Option WhereTerm) (n : LogEst) : LogEst :=
    match w with
    | some t => if t.excludesNull then n else n - 20
    | none => n
  let narrowed := cut upper (cut lower rows)
  let narrowed := if lower.isSome && upper.isSome then narrowed - 20 else narrowed
  let most := rows - (if lower.isSome then 1 else 0) - (if upper.isSome then 1 else 0)
  min (max narrowed 10) most

/-- Whether a key part is known to hold no null. -/
def partNotNull (t : Table) : KeyPart → Bool
  | .rowid => true
  | .column k => (t.columns.getD k default).notNull.isSome
  | .expr => false

/-- The column a key part stands for, as conditions name it. -/
def KeyPart.asColumn? (t : Table) : KeyPart → Option (Option Nat)
  | .rowid => some none
  | .column k => some (if t.rowidAlias == some k then none else some k)
  | .expr => none

/-- The conditions that bound the key part after `l.points` bound ones of a probe, in order,
with the bounds allowed after `l`'s. -/
def boundingTerms (ctx : LoopCtx) (t : Table) (p : Probe) (l : Loop) : List (WhereTerm × Nat) :=
  let part := p.parts.getD l.points .expr
  match part.asColumn? t with
  | none => []
  | some col =>
    ctx.terms.toList.zipIdx.filter fun (w, _) =>
      w.column == some (l.source, col) &&
      match w.bound with
      | none => false
      | some b =>
        (!l.lowerBound || b.isUpper) &&
        (b == .null || col.isNone ||
          (match part with
            | .column k => Affinity.searches w.comparer.affinity (t.columns.getD k default).affinity
            | _ => true) &&
          w.comparer.collation == p.collations.getD l.points .binary)

/-- The loops that search a probe with its key bound part after part, from a loop whose first
`points` parts are bound, visited depth first: each condition that bounds the next part makes a
loop, kept or not, and then the loops that bind the parts after it. -/
def indexLoops (ctx : LoopCtx) (t : Table) (p : Probe) : Nat → Loop → LogEst → List Loop → List Loop
  | 0, _, _, kept => kept
  | fuel + 1, base, inMul, kept =>
    let self := SourceSet.single base.source
    let part := p.parts.getD base.points .expr
    let tableRows := p.rows.headD defaultTableRows
    let logRows := LogEst.log tableRows
    (boundingTerms ctx t p base).foldl (fun kept (w, k) =>
      match w.bound with
      | none => kept
      | some b =>
        if ((b == .null || w.excludesNull) && partNotNull t part) ||
            !SourceSet.disjoint w.needs self || !ctx.mayBound base.source w then kept
        else
          let terms := base.terms ++ [k]
          let needs := SourceSet.diff (base.needs ||| w.needs) self
          let inCount : LogEst := match b with
            | .list n => LogEst.ofNat n
            | .query => 46
            | _ => 0
          let single :=
            b.isEquality &&
              (part == .rowid || (part != .expr && inMul == 0 && base.points + 1 == p.keyCount)) &&
              (part == .rowid || p.uniqueNotNull || (p.keyCount == 1 && p.unique && b == .eq))
          let l : Loop :=
            { base with
              terms := terms, needs := needs, setup := 0,
              membership := base.membership || b.isMembership,
              equality := base.equality || b.isEquality,
              nullness := base.nullness || b == .null,
              oneRow := base.oneRow || single,
              range := base.range || b.isLower || b.isUpper,
              lowerBound := base.lowerBound || b.isLower,
              upperBound := base.upperBound || b.isUpper }
          let (l, rows) :=
            if l.range then
              let lowerTerm := if b.isLower then some w
                else if base.lowerBound then
                  base.terms.getLast?.map fun j => ctx.terms.getD j default
                else none
              let upperTerm := if b.isUpper then some w else none
              (l, rangeRows base.rows lowerTerm upperTerm)
            else
              let points := base.points + 1
              let step := p.rows.getD points 0 - p.rows.getD base.points 0
              ({ l with points }, base.rows + step + (if b == .null then 10 else 0))
          let costIdx := if p.isRowid then rows + 16 else rows + 1 + (15 * p.width) / t.rowWidth
          let run := LogEst.add logRows costIdx
          let run := if l.covering || p.isRowid then run else LogEst.add run (rows + 16)
          let l := { l with run := run + inMul + inCount, rows := rows + inMul + inCount }
          let kept := insertLoop kept (ctx.adjustRows l tableRows)
          let next := { l with rows := if l.range then base.rows else rows }
          if !l.upperBound && l.points < p.parts.length && (l.points < p.keyCount || !p.primary) then
            indexLoops ctx t p fuel next (inMul + inCount) kept
          else kept) kept

/-- Whether an equality can key an index the query builds for source `i`, when it reads none of
the sources in `notReady`. -/
def LoopCtx.drivesAutomatic (ctx : LoopCtx) (i : Nat) (notReady : SourceSet) (w : WhereTerm) : Bool :=
  match w.column, w.bound with
  | some (s, some k), some b =>
    s == i && b.isEquality && ctx.mayBound i w && SourceSet.disjoint w.needs notReady &&
      match (ctx.sources.getD i default).table with
      | some t => Affinity.searches w.comparer.affinity (t.columns.getD k default).affinity
      | none => true
  | _, _ => false

/-- Whether a source may have an index built for it by the query. -/
def LoopCtx.allowsAutomatic (ctx : LoopCtx) (i : Nat) : Bool :=
  let s := ctx.sources.getD i default
  s.hint == .none && !s.recursive && !(i > 0 && s.join.right) &&
    match s.table with
    | some t => !t.withoutRowid
    | none => true

/-- The loops of one source, each offered to those kept: first those that build an index, one
for each equality that can key it; then for each probe a full scan, when one is worth
weighing, and the searches of the probe. -/
def sourceLoops (ctx : LoopCtx) (i : Nat) (outer : SourceSet) (kept : List Loop) : List Loop :=
  let s := ctx.sources.getD i default
  let self := SourceSet.single i
  let tableRows := defaultTableRows
  let empty : Loop :=
    { source := i, reach := .rowid, needs := outer, setup := 0, run := 0, rows := tableRows,
      terms := [], points := 0, lowerBound := false, upperBound := false, equality := false,
      membership := false, nullness := false, range := false, covering := false, oneRow := false,
      derivedScan := false, sortIdx := 0 }
  let logRows := LogEst.log tableRows
  let kept :=
    if !ctx.allowsAutomatic i then kept
    else
      ctx.terms.toList.zipIdx.foldl (fun kept (w, k) =>
        if !SourceSet.disjoint w.needs self || !ctx.drivesAutomatic i 0 w then kept
        else
          let setup := logRows + tableRows + (if s.derived then -25 else 28)
          insertLoop kept
            { empty with
              reach := .automatic, needs := outer ||| w.needs, terms := [k], points := 1,
              setup := max setup 0, rows := 43, run := LogEst.add logRows 43 }) kept
  match s.table with
  | none =>
    let scan := { empty with run := tableRows + 16, derivedScan := s.derived }
    insertLoop kept (ctx.adjustRows scan tableRows)
  | some t =>
    (t.probes s.hint).zipIdx.foldl (fun kept (p, k) =>
      if (p.index.bind (·.filter)).isSome then kept
      else
        let orders := ctx.mightOrder i p
        let fuel := p.parts.length + 1
        if p.isRowid then
          let sortIdx := if orders then k + 1 else 0
          let scan := { empty with run := tableRows + 16, sortIdx }
          let kept := insertLoop kept (ctx.adjustRows scan tableRows)
          indexLoops ctx t p fuel { empty with sortIdx } 0 kept
        else
          let covering := ctx.covers i p
          let rows := p.rows.headD tableRows
          let base := { empty with reach := .index p, covering, rows }
          let named := match s.hint with
            | .indexedBy _ => true
            | _ => false
          let scanWorth := orders || t.withoutRowid || named ||
            (covering && p.width < t.rowWidth)
          if scanWorth then
            let sortIdx := if orders then k + 1 else 0
            let run := rows + 1 + (15 * p.width) / t.rowWidth
            let run := if covering then run
              else
                let lookups := ctx.terms.toList.foldl (fun (acc : LogEst × Bool) w =>
                  let (n, going) := acc
                  if !going || !LoopCtx.coveredBy i p w then (n, false)
                  else
                    let n := n - 1
                    let n := match w.bound with
                      | some b => if b.isEquality then n - 19 else n
                      | none => n
                    (n, true)) (rows + 16, true)
                LogEst.add run lookups.1
            let kept := insertLoop kept (ctx.adjustRows { base with run, sortIdx } rows)
            indexLoops ctx t p fuel { base with sortIdx } 0 kept
          else indexLoops ctx t p fuel base 0 kept) kept

/-- The loops of every source, the sources taken in the order they were written. A source on the
right of an outer or cross join, or left of a right join, must be visited inside every source
before it; so must every source after the right side of a right join. -/
def allLoops (ctx : LoopCtx) : List Loop :=
  let step (st : List Loop × SourceSet × SourceSet × Bool × Bool) (i : Nat) :=
    let (kept, outer, prior, pastRight, hasRight) := st
    let s := ctx.sources.getD i default
    let leftOfRight := (ctx.sources.drop (i + 1)).any (·.join.right)
    let fixed := i > 0 && (s.join.left || s.join.right || s.join.cross)
    let (outer, pastRight, hasRight) :=
      if pastRight || fixed || leftOfRight then
        (outer ||| prior, i > 0 && s.join.right, hasRight || leftOfRight)
      else if !hasRight then (0, pastRight, hasRight)
      else (outer, pastRight, hasRight)
    (sourceLoops ctx i outer kept, outer, prior ||| SourceSet.single i, pastRight, hasRight)
  ((List.range ctx.sources.length).foldl step ([], 0, 0, false, false)).1

end RecordMap.Sql
