import RecordMap.Sql.Planner.Loop

/-!
# Whether loops give the wanted order

Loops nested in a path give their rows in an order: the outermost loop's, each of its rows
followed by the inner loops' rows for it. `orderedKeys` tells how many of the sort keys that
order already satisfies, key by key from the first:

* a key on a column that an equality binds to something computed outside the loop (or that is
  bound to be null) is satisfied by every order;
* a loop that yields one row, or visits an index (or the rowid) whose next part is the next key
  in the same direction (or in the opposite one, when the loop can run backwards and each
  earlier key of the loop ran the same way), satisfies that key;
* the keys after a loop whose rows all differ in the keys it satisfied (it yields one row, or
  its keys end with a unique key of non-null columns or the rowid) may go on to inner loops;
  after any other loop they may not.

The result is the number of keys satisfied, or none (`-1`) while every loop so far yields
distinct rows and keys remain, so that inner loops may yet satisfy them. For the groups of a
`group by` and the rows of a `distinct` the keys may be met in any order and direction.
-/

namespace RecordMap.Sql

/-- The variant of the order question asked. -/
inductive OrderAsk where
  /-- The rows in the order of the keys. -/
  | sorted
  /-- Rows with equal keys together, in any order of the keys and any direction. -/
  | grouped
  /-- Equal rows together, for dropping repeated rows. -/
  | distinct
  /-- Whether the innermost loop alone gives the order, for each row of the outer ones;
  memberships then count as equalities. -/
  | innermost
  deriving Repr, DecidableEq, Inhabited

/-- What the order of a path is weighed against. -/
structure OrderCtx where
  sources : List PlanSource
  terms : Array WhereTerm
  keys : List SortKey

/-- Whether a sort key puts nulls where its direction would not. -/
def SortKey.bigNull (k : SortKey) : Bool := k.nullsFirst == k.descending

/-- Whether a term reads no column of this query or of the queries around it. -/
def Term.isConstant (t : Term) : Bool :=
  (List.range 4).all fun d => (t.reads walkFuel d).isEmpty

/-- The condition on a column of a source, among those whose other side the sources in `ready`
give: one that binds it by equality to a constant if any, else the first. -/
def findBound (terms : Array WhereTerm) (src : Nat) (col : Option Nat) (ready : SourceSet)
    (ok : ColumnBound → Bool) : Option (WhereTerm × Nat) :=
  let found := terms.toList.zipIdx.filter fun (w, _) =>
    w.column == some (src, col) && SourceSet.sub w.needs ready &&
      match w.bound with
      | some b => ok b
      | none => false
  match found.find? (fun (w, _) => w.needs == 0 && (w.bound.map ColumnBound.isEquality).getD false) with
  | some f => some f
  | none => found.head?

/-- Where the order of a path stands: the keys satisfied (as bits), whether every loop so far
yields rows distinct in its keys, the sources of those loops, the sources visited outside the
current loop, and the loops that run backwards. -/
structure OrderState where
  satisfied : Nat
  distinct : Bool
  distinctSources : SourceSet
  ready : SourceSet
  reversed : SourceSet
  deriving Inhabited

/-- The state of a walk over the parts of a loop's key. -/
structure PartWalk where
  satisfied : Nat
  distinct : Bool
  reversed : SourceSet
  /-- The direction found, once one is. -/
  direction : Option Bool
  /-- Whether a key matched the rowid. -/
  rowidMatched : Bool

/-- The part of a key a loop visits at place `j`: the column it stands for and its direction. -/
def Loop.partAt (l : Loop) (t? : Option Table) (j : Nat) : KeyPart × Bool :=
  match l.reach, t? with
  | .index p, some t => (p.partAt t j, p.descending.getD j false)
  | _, _ => (.rowid, false)

/-- Walks the parts of a loop's key from place `j`: a part an equality (or nullness) binds is
passed over; any other is matched with the first sort key not yet satisfied (any of them, for
groups and distinct rows), and the walk stops at the first part that matches none. -/
def walkParts (ctx : OrderCtx) (ask : OrderAsk) (l : Loop) (position : Nat) (t? : Option Table)
    (keyCount partCount : Nat) : Nat → Nat → PartWalk → PartWalk
  | 0, _, w => w
  | fuel + 1, j, w =>
    let pointBound : Option ColumnBound :=
      if j < l.points then (ctx.terms.getD (l.terms.getD j 0) default).bound else none
    let passed := match pointBound with
      | some b => b.isEquality || b == ColumnBound.null || (ask == OrderAsk.innermost && b.isMembership)
      | none => false
    if j ≥ partCount then w
    else if passed then
      let w := if pointBound == some ColumnBound.null || pointBound == some ColumnBound.is then { w with distinct := false } else w
      walkParts ctx ask l position t? keyCount partCount fuel (j + 1) w
    else
      let (part, descending) := l.partAt t? j
      let distinct := w.distinct &&
        match part, t? with
        | .column k, some t => !(j ≥ l.points && (t.columns.getD k default).notNull.isNone)
        | .expr, _ => false
        | _, _ => true
      let anyKey := ask == OrderAsk.grouped || ask == OrderAsk.distinct
      let candidates := ctx.keys.zipIdx.filter fun (_, i) => !w.satisfied.testBit i
      let candidates := if anyKey then candidates else candidates.take 1
      let fits (k : SortKey) : Bool :=
        match k.term.ownColumn?, part with
        | some (s, none), .rowid => s == l.source
        | some (s, some c), .column c' =>
          s == l.source && c == c' &&
            match l.reach with
            | .index p => k.collation == p.collations.getD j .binary
            | _ => true
        | _, _ => false
      let stop (direction : Option Bool) (reversed : SourceSet) : PartWalk :=
        { w with distinct := if j == 0 || j < keyCount then false else distinct, direction, reversed }
      match candidates.find? (fun (k, _) => fits k) with
      | some (k, i) =>
        let (ok, direction, reversed) :=
          if ask == OrderAsk.grouped then (true, w.direction, w.reversed)
          else
            match w.direction with
            | some rev => ((rev != descending) == k.descending, w.direction, w.reversed)
            | none =>
              let rev := descending != k.descending
              (true, some rev, if rev then w.reversed ||| SourceSet.single position else w.reversed)
        let ok := ok && (!k.bigNull || j == l.points)
        if ok then
          walkParts ctx ask l position t? keyCount partCount fuel (j + 1)
            { satisfied := w.satisfied ||| (1 <<< i), distinct, reversed, direction,
              rowidMatched := w.rowidMatched || part == KeyPart.rowid }
        else stop direction reversed
      | none => stop w.direction w.reversed

/-- Marks the sort keys that an equality on a column of the loop's source satisfies, the
equality reading only outer sources. -/
def markBound (ctx : OrderCtx) (ask : OrderAsk) (l : Loop) (st : OrderState) : Nat :=
  ctx.keys.zipIdx.foldl (fun sat (k, i) =>
    if sat.testBit i then sat
    else
      match k.term.ownColumn? with
      | some (s, col) =>
        if s != l.source then sat
        else
          let ok (b : ColumnBound) : Bool :=
            b.isEquality || b == .null || (ask == .innermost && b.isMembership)
          match findBound ctx.terms s col st.ready ok with
          | some (w, idx) =>
            let inLoop := match w.bound with
              | some b => !b.isMembership || l.terms.contains idx
              | none => false
            let collOk := match w.bound, col with
              | some b, some _ => !b.isEquality || k.collation == w.comparer.collation
              | _, _ => true
            if inLoop && collOk then sat ||| (1 <<< i) else sat
          | none => sat
      | none => sat) st.satisfied

/-- Takes one loop into the order: the keys its bound columns and its key satisfy, and, when its
rows are distinct, the keys that read only loops with distinct rows. `none` when the loop is an
index the query builds, which gives no order. -/
def orderStep (ctx : OrderCtx) (ask : OrderAsk) (position : Nat) (l : Loop) (st : OrderState) :
    Option OrderState :=
  let t? := (ctx.sources.getD l.source default).table
  let satisfied := markBound ctx ask l st
  let walked : Option (Nat × Bool × SourceSet) :=
    if l.oneRow then some (satisfied, st.distinct, st.reversed)
    else
      let shape : Option (Nat × Nat × Bool) := match l.reach with
        | .rowid => some (0, 1, st.distinct)
        | .index p => some (p.keyCount, p.parts.length, p.unique)
        | .automatic => none
      shape.map fun (keyCount, partCount, distinct) =>
        let w := walkParts ctx ask l position t? keyCount partCount (partCount + 1) 0
          { satisfied, distinct, reversed := st.reversed, direction := none, rowidMatched := false }
        (w.satisfied, w.distinct || w.rowidMatched, w.reversed)
  walked.map fun (satisfied, distinct, reversed) =>
    if !distinct then { st with satisfied, distinct, reversed }
    else
      let distinctSources := st.distinctSources ||| SourceSet.single l.source
      let satisfied := ctx.keys.zipIdx.foldl (fun sat (k, i) =>
        if sat.testBit i then sat
        else
          let m := k.term.sourceSet
          if m == 0 && !k.term.isConstant then sat
          else if SourceSet.sub m distinctSources then sat ||| (1 <<< i)
          else sat) satisfied
      { st with satisfied, distinct, distinctSources, reversed }

/-- How many sort keys a path of loops followed by `last` satisfies, or -1 when all are not yet
satisfied but inner loops still may; and which loops (by their places in the path) run
backwards. With `innermost`, only the last loop is weighed. A loop on an index the query builds
gives no order: the count is then 0. -/
def orderedKeys (ctx : OrderCtx) (ask : OrderAsk) (path : List Loop) (last : Loop) : Int × SourceSet :=
  let n := ctx.keys.length
  let all := (1 <<< n) - 1
  let loops := path ++ [last]
  let step (st : OrderState) (lp : Loop × Nat) : Except (Int × SourceSet) OrderState :=
    let (l, position) := lp
    let st := if position > 0 then
        { st with ready := st.ready ||| SourceSet.single (loops.getD (position - 1) l).source }
      else st
    if !st.distinct || st.satisfied == all then .ok st
    else if ask == .innermost && position < path.length then .ok st
    else
      match orderStep ctx ask position l st with
      | some st => .ok st
      | none => .error (0, st.reversed)
  match loops.zipIdx.foldlM step ⟨0, true, 0, 0, 0⟩ with
  | .error r => r
  | .ok st =>
    if st.satisfied == all then (n, st.reversed)
    else if !st.distinct then
      let lead := (List.range n).reverse.find? (fun i =>
        i > 0 && st.satisfied &&& ((1 <<< i) - 1) == (1 <<< i) - 1)
      ((lead.getD 0 : Nat), st.reversed)
    else (-1, st.reversed)

/-- The estimated cost of sorting `rows` rows of a result `width` columns wide by keys of which
the first `sorted` are already in order, with a limit or dropping repeated rows. -/
def sortingCost (goal : PlanGoal) (rows : LogEst) (sorted : Nat) : LogEst :=
  let n := goal.keys.length
  let cols := LogEst.ofNat ((goal.width + 59) / 30)
  let cost := rows + cols
  let cost := if sorted > 0 then cost + LogEst.ofNat ((n - sorted) * 100 / n) - 66 else cost
  let (cost, rows) := match goal.limit with
    | some lim =>
      let cost := cost + 10 + (if sorted != 0 then 6 else 0)
      let limitRows := LogEst.ofNat lim
      (cost, if limitRows < rows then limitRows else rows)
    | none =>
      if goal.wantDistinct && goal.kind != .groupBy then (cost, if rows > 10 then rows - 10 else rows)
      else (cost, rows)
  cost + LogEst.log rows

/-- Whether dropping repeated rows of a one-source query is useless: a result column is the
rowid, or the result holds (or equalities to constants bind) every column of a unique index, each
not null unless bound. -/
def distinctRedundant (sources : List PlanSource) (terms : Array WhereTerm) (results : List SortKey) :
    Bool :=
  match sources with
  | [s] =>
    results.any (fun k => k.term.ownColumn? == some (0, none)) ||
      match s.table with
      | some t =>
        t.indexes.any fun ix =>
          ix.unique && ix.filter.isNone &&
            ix.terms.all fun it =>
              let col : Option (Option Nat) := match it.column with
                | some k => some (if t.rowidAlias == some k then none else some k)
                | none => none
              let bound := match col with
                | some c => (terms.toList.any fun w =>
                    w.column == some (0, c) && w.needs == 0 && w.bound == some .eq &&
                      (c.isNone || w.comparer.collation == it.collation))
                | none => false
              bound ||
                (match col, it.column with
                  | some c, some k =>
                    results.any (fun r => r.term.ownColumn? == some (0, c) && r.collation == it.collation) &&
                      (t.columns.getD k default).notNull.isSome
                  | _, _ => false)
      | none => false
  | _ => false

end RecordMap.Sql
