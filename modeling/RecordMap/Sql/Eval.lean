import RecordMap.Sql.Planner

/-!
# Running compiled queries

`runQuery` runs a `QueryPlan` against a store with parameter values. A `select` core

1. reads the rows of its sources in the order of its levels, each level visiting its source in
   the order the plan chose, and keeps the combinations its conditions hold for: the `on`
   conditions of an outer join decide whether a row joins (a row of nulls standing in when none
   does, and, for a right join, the rows that never joined being added once the loops end);
2. when it aggregates, puts the rows in groups of equal `group by` values (sorted stably by
   them, unless the loops already bring each group together) and computes each group's
   aggregates; the other columns read the row the group last loaded, which is its first row,
   or, when the query has `min` or `max`, the row of the last new extreme;
3. computes its window functions, one window order after another;
4. drops repeated result rows for `distinct`, keeping the first.

The query then sorts its rows stably by its `order by` terms and applies `offset` and `limit`.
A compound combines its cores: `union all` concatenates them, while `union`, `intersect` and
`except` give their rows sorted and without repeats.

Every step is bounded by fuel, which each step into a part of a query or term uses up.
-/

namespace RecordMap.Sql

open RecordMap.Numeral

/-- The current row of a source: its values and its rowid (none when it has none, or stands
for a missing row). -/
structure Cursor where
  values : Array Datum
  rowid : Option Int
  deriving Inhabited

/-- The row of nulls that stands for a missing row. -/
def Cursor.null : Cursor := ⟨#[], none⟩

/-- The row a query level is on: the current row of each source and the values of the aggregate
and window slots. -/
structure LevelRow where
  cursors : Array Cursor
  aggregates : Array Datum := #[]
  windows : Array Datum := #[]
  deriving Inhabited

/-- The frame with the row of a source changed. -/
def LevelRow.put (f : LevelRow) (i : Nat) (c : Cursor) : LevelRow :=
  { f with cursors := f.cursors.setIfInBounds i c }

/-- What running a statement reads besides the frames: the store, the parameter values, what
functions read about the connection, and the working rows of recursive common table
expressions. -/
structure Env where
  store : Store
  params : Array Datum
  call : CallEnv
  working : List (Nat × List Datum) := []
  deriving Inhabited

/-- What the loops of a `select` hand their combinations of rows to: the result rows with the
values of some sort keys (stopping once `early` rows are out), or the combinations themselves. -/
inductive Sink where
  | results (keys : List SortKey) (early : Option Nat)
  | frames

/-- What the loops of a `select` have gathered: the rows of each source once read, which rows
of the right side of a right join joined, the combinations or result rows so far, and whether
enough rows are out. -/
structure Gathered where
  cache : Array (Option (List Cursor)) := #[]
  matched : Array (Array Bool) := #[]
  frames : Array LevelRow := #[]
  rows : Array (List Datum × List Datum) := #[]
  done : Bool := false
  deriving Inhabited

/-- Records that row `idx` of a source joined. -/
def Gathered.mark (g : Gathered) (source idx : Nat) : Gathered :=
  let marks := g.matched.getD source #[]
  let marks := if idx < marks.size then marks.setIfInBounds idx true
    else (marks ++ Array.replicate (idx - marks.size) false).push true
  { g with matched := g.matched.setIfInBounds source marks }

/-- The value of a column reference in the frames, innermost first. -/
def columnValue (frames : List LevelRow) (r : ColumnRef) : Datum :=
  let f := frames.getD r.depth default
  let c := f.cursors.getD r.source Cursor.null
  match r.column with
  | none =>
    match c.rowid with
    | some i => .integer i
    | none => .null
  | some k => c.values.getD k .null

/-- The order of two values under a sort key: nulls where the key puts them, then the
collation, reversed for a descending key. -/
def SortKey.order (k : SortKey) (a b : Datum) : Ordering :=
  match a, b with
  | .null, .null => .eq
  | .null, _ => if k.nullsFirst then .lt else .gt
  | _, .null => if k.nullsFirst then .gt else .lt
  | _, _ =>
    let o := compareDatum k.collation a b
    if k.descending then o.swap else o

/-- The order of two lists of key values under their sort keys. -/
def orderByKeys : List SortKey → List Datum → List Datum → Ordering
  | [], _, _ => .eq
  | k :: ks, a :: as, b :: bs =>
    match k.order a b with
    | .eq => orderByKeys ks as bs
    | o => o
  | _, _, _ => .eq

/-- Splits a list into runs of adjacent elements that are the same as the first of their run. -/
def runsOf {α : Type} (same : α → α → Bool) (xs : List α) : List (List α) :=
  (xs.foldl (fun (acc : List (List α)) x =>
    match acc with
    | (y :: ys) :: rest =>
      if same ((y :: ys).getLast?.getD y) x then (x :: y :: ys) :: rest else [x] :: (y :: ys) :: rest
    | _ => [[x]]) []).reverse.map List.reverse

/-- A stable sort by a three-way comparison. -/
def stableSort {α : Type} (cmp : α → α → Ordering) (xs : List α) : List α :=
  xs.mergeSort fun a b => cmp a b != .gt

/-- Whether two rows are the same under the collations of their places. -/
def sameUnder (colls : List Collation) (a b : List Datum) : Bool :=
  compareRows (colls.map (·, false)) a b == .eq

/-- Rows sorted under the collations of their places, each run of equal rows kept once: its
last row, as an index of rows keeps the last row stored under a key. -/
def sortDistinct (colls : List Collation) (rows : List (List Datum)) : List (List Datum) :=
  let sorted := stableSort (compareRows (colls.map (·, false))) rows
  (runsOf (sameUnder colls) sorted).filterMap (·.getLast?)

/-- The integer a `limit` or `offset` value is, failing for a value that is not one. -/
def mustBeInteger (d : Datum) : Except Fault Int :=
  match Datum.withAffinity .numeric d with
  | .integer i => pure i
  | .real x =>
    match realAsInteger? x with
    | some i => if minI64 < i && i < maxI64 then pure i else throw Fault.mismatch
    | none => throw Fault.mismatch
  | _ => throw Fault.mismatch

/-- The truth of two row values compared place by place: equality holds when every place is
equal, and an order is decided by the first place that differs. -/
def compareVectors (op : CompareOp) (cs : List Comparer) (a b : List Datum) : Datum :=
  let places := (cs.zip (a.zip b))
  match op with
  | .eq => places.foldl (fun acc (c, x, y) => conjoin acc (comparison .eq c.affinity c.collation x y))
      (.integer 1)
  | .ne => places.foldl (fun acc (c, x, y) => disjoin acc (comparison .ne c.affinity c.collation x y))
      (.integer 0)
  | .is => Datum.ofBool (places.all fun (c, x, y) => (comparison .is c.affinity c.collation x y).passes)
  | .isNot =>
    Datum.ofBool (!places.all fun (c, x, y) => (comparison .is c.affinity c.collation x y).passes)
  | _ =>
    let rec go : List (Comparer × Datum × Datum) → Datum
      | [] => .integer (if op == .le || op == .ge then 1 else 0)
      | [(c, x, y)] => comparison op c.affinity c.collation x y
      | (c, x, y) :: rest =>
        match compareUnder c.affinity c.collation x y with
        | none => .null
        | some .eq => go rest
        | some o => Datum.ofBool (if op == .lt || op == .le then o == .lt else o == .gt)
    go places

/-- The failure of running out of fuel. -/
def exhausted : Fault := Fault.error "query is too complex"

/-- The failure a `raise` reports: `ignore` is the code 0 that the row it abandons catches; the
others fail the statement as a trigger's constraint, undoing the statement (`abort`), nothing
(`fail`) or the transaction (`rollback`). -/
def raiseFault (kind : RaiseKind) (message : Datum) : Fault :=
  match kind with
  | .ignore => Fault.coded 0 "ignore"
  | .rollback => ⟨1811, textOf message.bytes, none, .transaction⟩
  | .abort => ⟨1811, textOf message.bytes, none, .statement⟩
  | .fail => ⟨1811, textOf message.bytes, none, .nothing⟩

/-- Whether a failure is the `raise(ignore)` of a trigger. -/
def Fault.isIgnore (f : Fault) : Bool := f.code == 0

/-- The rows of the schema table. -/
def schemaRows (s : Store) : List Cursor :=
  s.entries.map fun e =>
    ⟨#[Datum.ofString e.kind, Datum.ofString e.name, Datum.ofString e.table,
       .integer e.rootpage, match e.sql with
         | some q => Datum.ofString q
         | none => .null], some e.rowid⟩

/-- A stored row as a cursor, the column that is the rowid reading the rowid. -/
def Table.cursor (t : Table) (r : Row) : Cursor :=
  ⟨(Array.range t.columns.size).map (t.value r), if t.withoutRowid then none else some r.rowid⟩

/-- The rows of a table in the order of one of its indexes: by the index's columns under
their collations and directions, then in table order. -/
def Table.indexOrder (t : Table) (ix : Index) : List Cursor :=
  let key (r : Row) : List Datum := ix.terms.map fun term =>
    match term.column with
    | some k => t.value r k
    | none => .null
  let spec := ix.terms.map fun term => (term.collation, term.descending)
  (stableSort (fun a b => RecordMap.Sql.compareRows spec (key a) (key b)) t.rows).map t.cursor

/-- Rows in the order of an index a query builds for itself: by its key columns under their
collations, then by its other columns, then by rowid. -/
def autoOrder (keys : List (Nat × Collation)) (extra : List Nat) (rows : List Cursor) : List Cursor :=
  let spec := keys.map (fun (_, c) => (c, false)) ++ extra.map fun _ => (Collation.binary, false)
  let key (c : Cursor) : List Datum :=
    keys.map (fun (k, _) => c.values.getD k .null) ++ extra.map fun k => c.values.getD k .null
  stableSort (fun a b =>
    match compareRows spec (key a) (key b) with
    | .eq => compare (a.rowid.getD 0) (b.rowid.getD 0)
    | o => o) rows

/-- Whether two compiled terms are the same, as far as the comparison can tell: a term it
cannot look into is different from every term. -/
def Term.same : Nat → Term → Term → Bool
  | 0, _, _ => false
  | n + 1, a, b =>
    let all (xs ys : List Term) : Bool :=
      xs.length == ys.length && (xs.zip ys).all fun (x, y) => Term.same n x y
    match a, b with
    | .value x, .value y => x.same y
    | .param i, .param j => i == j
    | .column r, .column s => r == s
    | .plus x, .plus y | .negate x, .negate y | .bitNot x, .bitNot y | .not x, .not y =>
      Term.same n x y
    | .arith o x1 x2, .arith p y1 y2 => o == p && Term.same n x1 y1 && Term.same n x2 y2
    | .bits o x1 x2, .bits p y1 y2 => o == p && Term.same n x1 y1 && Term.same n x2 y2
    | .concat x1 x2, .concat y1 y2 | .and x1 x2, .and y1 y2 | .or x1 x2, .or y1 y2 =>
      Term.same n x1 y1 && Term.same n x2 y2
    | .compare o c x1 x2, .compare p d y1 y2 =>
      o == p && c == d && Term.same n x1 y1 && Term.same n x2 y2
    | .isNull u x, .isNull v y => u == v && Term.same n x y
    | .cast u x, .cast v y => u == v && Term.same n x y
    | .call f c xs, .call g d ys => f == g && c == d && all xs ys
    | .coalesce xs, .coalesce ys => all xs ys
    | .aggregate i, .aggregate j => i == j
    | _, _ => false

/-- Whether two lists of sort keys are the same. -/
def SortKey.sameList (xs ys : List SortKey) : Bool :=
  xs.length == ys.length && (xs.zip ys).all fun (x, y) =>
    Term.same 10000 x.term y.term && x.collation == y.collation && x.descending == y.descending &&
      x.nullsFirst == y.nullsFirst

/-- Whether two frame bounds are the same. -/
def Bound.same : Bound → Bound → Bool
  | .unboundedPreceding, .unboundedPreceding | .currentRow, .currentRow
  | .unboundedFollowing, .unboundedFollowing => true
  | .preceding x, .preceding y | .following x, .following y => Term.same 10000 x y
  | _, _ => false

/-- Whether two windows order and frame their rows the same way. -/
def WindowDef.same (a b : WindowDef) : Bool :=
  SortKey.sameList a.partition b.partition && SortKey.sameList a.orderBy b.orderBy &&
    a.unit == b.unit && a.start.same b.start && a.finish.same b.finish && a.exclude == b.exclude

/-- The windows of a query in groups of the same window, each group with the places of its
windows: the first window with all windows the same as it, then the first window left with
those the same as it, and so on. -/
def windowGroups (ws : List WindowDef) : List (WindowDef × List Nat) :=
  let rec go : Nat → List (WindowDef × Nat) → List (WindowDef × List Nat)
    | 0, _ => []
    | _ + 1, [] => []
    | n + 1, (w, i) :: rest =>
      let same := rest.filter fun (v, _) => w.same v
      let others := rest.filter fun (v, _) => !w.same v
      (w, i :: same.map (·.2)) :: go n others
  go (ws.length + 1) ws.zipIdx

/-- A row being windowed: its frame, and its partition and order key values. -/
structure Windowed where
  frame : LevelRow
  partKey : List Datum
  orderKey : List Datum
  deriving Inhabited

/-- The places of the rows of a partition that are peers of row `i`: rows with equal order
keys, all rows when there are no order keys. -/
def peerRange (w : WindowDef) (rows : Array Windowed) (i : Nat) : Nat × Nat :=
  let key := (rows.getD i default).orderKey
  let same (j : Nat) : Bool := orderByKeys w.orderBy (rows.getD j default).orderKey key == .eq
  let lo := ((List.range i).reverse.takeWhile same).length
  let hi := ((List.range (rows.size - i - 1)).map (· + i + 1) |>.takeWhile same).length
  (i - lo, i + hi)

/-- The peer groups of a partition, as ranges of places. -/
def peerGroups (w : WindowDef) (rows : Array Windowed) : List (Nat × Nat) :=
  (runsOf (fun a b => orderByKeys w.orderBy (rows.getD a default).orderKey
      (rows.getD b default).orderKey == .eq) (List.range rows.size)).map fun g =>
    (g.headD 0, g.getLastD 0)

/-- The places of the rows in the frame of row `i` of a partition, before exclusions, given
the offsets of its bounds. -/
def frameRange (w : WindowDef) (rows : Array Windowed) (i : Nat) (startOff endOff : Option Datum) :
    Option (Nat × Nat) :=
  let size := rows.size
  let groups := peerGroups w rows
  let groupOf (j : Nat) : Nat := (groups.findIdx? fun (a, b) => a ≤ j && j ≤ b).getD 0
  let (plo, phi) := peerRange w rows i
  let asNat (d : Option Datum) : Nat := match d with
    | some (.integer k) => k.toNat
    | some (.real x) => (realToInt x).toNat
    | _ => 0
  let numeric (d : Option Datum) : Float := match d with
    | some v => v.realValue
    | none => 0.0
  let rangeEdge (isStart : Bool) (preceding : Bool) (off : Option Datum) : Int :=
    let key := (rows.getD i default).orderKey.headD .null
    let desc := (w.orderBy.headD default).descending
    match key with
    | .null =>
      if isStart then plo else phi
    | _ =>
      let k := key.realValue
      let delta := numeric off
      let target := if preceding != desc then k - delta else k + delta
      let vals := (List.range size).map fun j => ((rows.getD j default).orderKey.headD .null)
      let inside (v : Datum) : Bool :=
        match v with
        | .null => false
        | _ =>
          let x := v.realValue
          if isStart then (if desc then x ≤ target else x ≥ target)
          else (if desc then x ≥ target else x ≤ target)
      if isStart then
        match (vals.zipIdx.find? fun (v, _) => inside v) with
        | some (_, j) => j
        | none => size
      else
        match (vals.zipIdx.reverse.find? fun (v, _) => inside v) with
        | some (_, j) => j
        | none => -1
  let edge (isStart : Bool) (b : Bound) (off : Option Datum) : Int :=
    match b with
    | .unboundedPreceding => 0
    | .unboundedFollowing => (size : Int) - 1
    | .currentRow =>
      match w.unit with
      | .rows => i
      | _ => if isStart then plo else phi
    | .preceding _ =>
      match w.unit with
      | .rows => (i : Int) - asNat off
      | .groups =>
        let g := (groupOf i : Int) - asNat off
        if g < 0 then (if isStart then 0 else -1)
        else
          let (a, b) := groups.getD g.toNat (0, 0)
          if isStart then a else b
      | .range => rangeEdge isStart true off
    | .following _ =>
      match w.unit with
      | .rows => (i : Int) + asNat off
      | .groups =>
        let g := groupOf i + asNat off
        if g ≥ groups.length then (if isStart then size else (size : Int) - 1)
        else
          let (a, b) := groups.getD g (0, 0)
          if isStart then a else b
      | .range => rangeEdge isStart false off
  let s := max 0 (edge true w.start startOff)
  let e := min ((size : Int) - 1) (edge false w.finish endOff)
  if s > e then none else some (s.toNat, e.toNat)

/-- The places of the rows of the frame of row `i`, with the frame's exclusions applied. -/
def frameRows (w : WindowDef) (rows : Array Windowed) (i : Nat) (startOff endOff : Option Datum) :
    List Nat :=
  match frameRange w rows i startOff endOff with
  | none => []
  | some (a, b) =>
    let (plo, phi) := peerRange w rows i
    let all := (List.range (b - a + 1)).map (· + a)
    match w.exclude with
    | .noOthers => all
    | .currentRow => all.filter (· != i)
    | .group => all.filter fun j => j < plo || j > phi
    | .ties => all.filter fun j => j == i || j < plo || j > phi

mutual

/-- The value of a term in the frames, innermost first. -/
def Term.eval : Nat → Env → List LevelRow → Term → Except Fault Datum
  | 0, _, _, _ => throw exhausted
  | n + 1, env, frames, t =>
    match t with
    | .value d => pure d
    | .param slot => pure (env.params.getD (slot - 1) .null)
    | .column r => pure (columnValue frames r)
    | .plus a => Term.eval n env frames a
    | .negate a => do
      let v ← Term.eval n env frames a
      pure (negateValue v)
    | .bitNot a => do
      let v ← Term.eval n env frames a
      pure (complement v)
    | .not a => do
      let v ← Term.eval n env frames a
      pure (negateTruth v)
    | .arith op l r => do
      let a ← Term.eval n env frames l
      let b ← Term.eval n env frames r
      pure (arithmetic op a b)
    | .bits op l r => do
      let a ← Term.eval n env frames l
      let b ← Term.eval n env frames r
      pure (bitwise op a b)
    | .concat l r => do
      let a ← Term.eval n env frames l
      let b ← Term.eval n env frames r
      pure (concatenate a b)
    | .compare op c l r => do
      let a ← Term.eval n env frames l
      let b ← Term.eval n env frames r
      pure (comparison op c.affinity c.collation a b)
    | .compareRows op cs l r => do
      let a ← Term.vector n env frames l
      let b ← Term.vector n env frames r
      pure (compareVectors op cs a b)
    | .and l r => do
      let a ← Term.eval n env frames l
      let b ← Term.eval n env frames r
      pure (conjoin a b)
    | .or l r => do
      let a ← Term.eval n env frames l
      let b ← Term.eval n env frames r
      pure (disjoin a b)
    | .truth wanted negated a => do
      let v ← Term.eval n env frames a
      let holds := v.truth? == some wanted
      pure (Datum.ofBool (if negated then !holds else holds))
    | .between negated low high x lo hi => do
      let vx ← Term.eval n env frames x
      let vl ← Term.eval n env frames lo
      let vh ← Term.eval n env frames hi
      let r := conjoin (comparison .ge low.affinity low.collation vx vl)
        (comparison .le high.affinity high.collation vx vh)
      pure (if negated then negateTruth r else r)
    | .inList negated c x items => do
      let vx ← Term.eval n env frames x
      let r ← Term.member n env frames c vx items false
      pure (if negated then negateTruth r else r)
    | .inQuery negated cs x q => do
      let vx ← Term.vector n env frames x
      let rows ← runQuery n env frames q none
      let r :=
        if rows.isEmpty then Datum.ofBool false
        else if vx.any (·.isNull) then .null
        else
          let results := rows.map fun row => compareVectors .eq cs vx row
          if results.any (·.passes) then Datum.ofBool true
          else if results.any (·.isNull) then .null
          else Datum.ofBool false
      pure (if negated then negateTruth r else r)
    | .isNull negated a => do
      let v ← Term.eval n env frames a
      pure (Datum.ofBool (if negated then !v.isNull else v.isNull))
    | .cases operand arms otherwise => do
      let op ← match operand with
        | some o => do
          let v ← Term.eval n env frames o
          pure (some v)
        | none => pure none
      Term.evalCases n env frames op arms otherwise
    | .cast a x => do
      let v ← Term.eval n env frames x
      pure (Datum.castTo a v)
    | .call (.json j b) coll args => do
      let (v, _) ← Term.evalTagged n env frames (.call (.json j b) coll args)
      pure v
    | .call f coll args => do
      let vs ← Term.evalAll n env frames args
      match applyScalar env.call coll f vs with
      | .ok v => pure v
      | .error e => throw e
    | .coalesce args => Term.firstNonNull n env frames args
    | .iif c a b => do
      let v ← Term.eval n env frames c
      if v.passes then Term.eval n env frames a else Term.eval n env frames b
    | .aggregate slot => pure ((frames.headD default).aggregates.getD slot .null)
    | .window slot => pure ((frames.headD default).windows.getD slot .null)
    | .exists q => do
      let rows ← runQuery n env frames q (some 1)
      pure (Datum.ofBool !rows.isEmpty)
    | .scalar q => do
      let rows ← runQuery n env frames q (some 1)
      pure ((rows.headD []).headD .null)
    | .row items => do
      let vs ← Term.evalAll n env frames items
      pure (vs.headD .null)
    | .raise kind m => do
      let v ← Term.eval n env frames m
      throw (raiseFault kind v)
    | .failure f args => do
      let _ ← Term.evalAll n env frames args
      throw f

/-- The value of a term, with whether a JSON function made it: the mark JSON functions read on
their arguments. -/
def Term.evalTagged : Nat → Env → List LevelRow → Term → Except Fault JsonArg
  | 0, _, _, _ => throw exhausted
  | n + 1, env, frames, t =>
    match t with
    | .call (.json j b) _ args => do
      let vs ← Term.evalTaggedAll n env frames args
      match applyJsonTagged j b vs with
      | .ok v => pure v
      | .error e => throw e
    | _ => do
      let v ← Term.eval n env frames t
      pure (v, false)

/-- The values of some terms with their marks, left to right. -/
def Term.evalTaggedAll : Nat → Env → List LevelRow → List Term → Except Fault (List JsonArg)
  | 0, _, _, _ => throw exhausted
  | _ + 1, _, _, [] => pure []
  | n + 1, env, frames, t :: ts => do
    let v ← Term.evalTagged n env frames t
    let vs ← Term.evalTaggedAll n env frames ts
    pure (v :: vs)

/-- The values of some terms, left to right. -/
def Term.evalAll : Nat → Env → List LevelRow → List Term → Except Fault (List Datum)
  | 0, _, _, _ => throw exhausted
  | _ + 1, _, _, [] => pure []
  | n + 1, env, frames, t :: ts => do
    let v ← Term.eval n env frames t
    let vs ← Term.evalAll n env frames ts
    pure (v :: vs)

/-- The values of the places of a row value: a row's items, a subquery's first row (nulls
when it has none), or a single value. -/
def Term.vector : Nat → Env → List LevelRow → Term → Except Fault (List Datum)
  | 0, _, _, _ => throw exhausted
  | n + 1, env, frames, t =>
    match t with
    | .row items => Term.evalAll n env frames items
    | .scalar q => do
      let rows ← runQuery n env frames q (some 1)
      match rows with
      | r :: _ => pure r
      | [] => pure ((List.range q.width).map fun _ => .null)
    | _ => do
      let v ← Term.eval n env frames t
      pure [v]

/-- Whether a value is among the values of some terms, evaluated until one equals it: null when
none does and the value or one of the values is null. -/
def Term.member : Nat → Env → List LevelRow → Comparer → Datum → List Term → Bool →
    Except Fault Datum
  | 0, _, _, _, _, _, _ => throw exhausted
  | _ + 1, _, _, _, x, [], sawNull => pure (if sawNull || x.isNull then .null else Datum.ofBool false)
  | n + 1, env, frames, c, x, t :: ts, sawNull => do
    let v ← Term.eval n env frames t
    let r := comparison .eq c.affinity c.collation x v
    if r.passes then pure (Datum.ofBool true)
    else Term.member n env frames c x ts (sawNull || v.isNull)

/-- The value of the arms of a `case`, tried in order. -/
def Term.evalCases : Nat → Env → List LevelRow → Option Datum → List CaseArm → Option Term →
    Except Fault Datum
  | 0, _, _, _, _, _ => throw exhausted
  | n + 1, env, frames, _, [], otherwise =>
    match otherwise with
    | some o => Term.eval n env frames o
    | none => pure .null
  | n + 1, env, frames, op, arm :: rest, otherwise => do
    let v ← Term.eval n env frames arm.test
    let hit := match op with
      | some x => (comparison .eq arm.comparer.affinity arm.comparer.collation x v).passes
      | none => v.passes
    if hit then Term.eval n env frames arm.result
    else Term.evalCases n env frames op rest otherwise

/-- The first value of some terms that is not null, evaluated in order. -/
def Term.firstNonNull : Nat → Env → List LevelRow → List Term → Except Fault Datum
  | 0, _, _, _ => throw exhausted
  | _ + 1, _, _, [] => pure .null
  | n + 1, env, frames, t :: ts => do
    let v ← Term.eval n env frames t
    if v.isNull then Term.firstNonNull n env frames ts else pure v

/-- Whether every condition holds, checked in order until one does not. -/
def Term.allPass : Nat → Env → List LevelRow → List Term → Except Fault Bool
  | 0, _, _, _ => throw exhausted
  | _ + 1, _, _, [] => pure true
  | n + 1, env, frames, t :: ts => do
    let v ← Term.eval n env frames t
    if v.passes then Term.allPass n env frames ts else pure false

/-- The rows of a query. `want` is how many rows the caller needs at most. -/
def runQuery : Nat → Env → List LevelRow → QueryPlan → Option Nat → Except Fault (List (List Datum))
  | 0, _, _, _, _ => throw exhausted
  | n + 1, env, frames, q, want => do
    let noFrames : List LevelRow := []
    let limit ← match q.limit with
      | some t => do
        let v ← Term.eval n env noFrames t
        let i ← mustBeInteger v
        pure (if i < 0 then none else some i.toNat)
      | none => pure none
    let offset ← match q.offset with
      | some t => do
        let v ← Term.eval n env noFrames t
        let i ← mustBeInteger v
        pure (if i < 0 then 0 else i.toNat)
      | none => pure 0
    let limit := match limit, want with
      | some l, some w => some (min l w)
      | some l, none => some l
      | none, w => w
    if limit == some 0 then pure []
    else
      let rows ← match q.body with
        | .core (.select s) => do
          let early := if q.orderBy.isEmpty then limit.map (· + offset) else none
          let keyed ← runSelect n env frames s q.orderBy early
          pure (if q.orderBy.isEmpty then keyed.map (·.1)
            else (stableSort (fun a b => orderByKeys q.orderBy a.2 b.2) keyed).map (·.1))
        | body => do
          let rows ← runCompound n env frames body
          if q.orderBy.isEmpty then pure rows
          else
            let keyed ← rows.mapM fun row => do
              let f : LevelRow := { cursors := #[⟨row.toArray, none⟩] }
              let ks ← Term.evalAll n env (f :: frames) (q.orderBy.map (·.term))
              pure (row, ks)
            let keys := match body with
              | .join .unionAll _ _ _ => q.orderBy
              | .join _ _ _ colls =>
                q.orderBy ++ ((List.range q.width).filter (fun k =>
                  !q.orderBy.any fun key => match key.term with
                    | .column r => r.column == some k
                    | _ => false)).map fun k =>
                  (⟨.column ⟨0, 0, some k⟩, colls.getD k .binary, false, true⟩ : SortKey)
              | _ => q.orderBy
            let keyed ← if keys.length == q.orderBy.length then pure keyed
              else keyed.mapM fun (row, _) => do
                let f : LevelRow := { cursors := #[⟨row.toArray, none⟩] }
                let ks ← Term.evalAll n env (f :: frames) (keys.map (·.term))
                pure (row, ks)
            pure ((stableSort (fun a b => orderByKeys keys a.2 b.2) keyed).map (·.1))
      let rows := rows.drop offset
      pure (match limit with
        | some l => rows.take l
        | none => rows)

/-- The rows of a compound, without its order. -/
def runCompound : Nat → Env → List LevelRow → CompoundPlan → Except Fault (List (List Datum))
  | 0, _, _, _ => throw exhausted
  | n + 1, env, frames, c =>
    match c with
    | .core core => runCore n env frames core
    | .join op l r colls => do
      let left ← runCompound n env frames l
      let right ← runCore n env frames r
      match op with
      | .unionAll => pure (left ++ right)
      | .union => pure (sortDistinct colls (left ++ right))
      | .intersect =>
        pure (sortDistinct colls (left.filter fun a => right.any (sameUnder colls a)))
      | .except =>
        pure (sortDistinct colls (left.filter fun a => !right.any (sameUnder colls a)))

/-- The rows of a core. -/
def runCore : Nat → Env → List LevelRow → CorePlan → Except Fault (List (List Datum))
  | 0, _, _, _ => throw exhausted
  | n + 1, env, frames, c =>
    match c with
    | .select s => do
      let rows ← runSelect n env frames s [] none
      pure (rows.map (·.1))
    | .values rows => rows.mapM (Term.evalAll n env ({ cursors := #[] } :: frames))

/-- The rows of a `select` core with the values of the sort keys for each; `early` is how many
rows suffice when nothing needs all of them. -/
def runSelect : Nat → Env → List LevelRow → SelectPlan → List SortKey → Option Nat →
    Except Fault (List (List Datum × List Datum))
  | 0, _, _, _, _, _ => throw exhausted
  | n + 1, env, frames, s, keys, early => do
    let init : LevelRow := { cursors := Array.replicate s.sources.length Cursor.null }
    let direct := !s.grouped && s.windows.isEmpty
    let start : Gathered := { cache := Array.replicate s.sources.length none,
                              matched := Array.replicate s.sources.length #[] }
    let mode : Sink := if direct then .results keys (if s.distinct.isSome then none else early)
      else .frames
    let admitted ← Term.allPass n env (init :: frames) s.guard
    let g ← if admitted then joinLevels n env frames s mode s.levels init start else pure start
    let g ← if admitted then rightJoinRows n env frames s mode s.levels init g else pure g
    if direct then
      match s.distinct, early with
      | some _, some e => pure (g.rows.toList.take e)
      | _, _ => pure g.rows.toList
    else
      let rowsIn := g.frames.toList
      let grouped ← if s.grouped then groupFrames n env frames s rowsIn else pure rowsIn
      let windowed ← if s.windows.isEmpty then pure grouped
        else windowFrames n env frames s grouped
      let out ← windowed.foldlM (fun (acc : Array (List Datum × List Datum)) f => do
          let fs := f :: frames
          let row ← Term.evalAll n env fs s.results
          match s.distinct with
          | some colls =>
            if acc.any (fun (r, _) => sameUnder colls r row) then pure acc
            else do
              let ks ← Term.evalAll n env fs (keys.map (·.term))
              pure (acc.push (row, ks))
          | none => do
            let ks ← Term.evalAll n env fs (keys.map (·.term))
            pure (acc.push (row, ks))) #[]
      pure out.toList

/-- Runs the loops of a `select` from a level on, with the rows of the levels before it in
`frame`. -/
def joinLevels : Nat → Env → List LevelRow → SelectPlan → Sink → List Level → LevelRow → Gathered →
    Except Fault Gathered
  | 0, _, _, _, _, _, _, _ => throw exhausted
  | n + 1, env, frames, s, mode, [], frame, g => emitRow n env frames s mode frame g
  | n + 1, env, frames, s, mode, lvl :: rest, frame, g => do
    let (rows, g) ← levelRows n env frames s lvl g
    let (g, anyMatch) ← rows.zipIdx.foldlM (fun (acc : Gathered × Bool) (cur, idx) => do
        let (g, anyMatch) := acc
        if g.done then pure (g, anyMatch)
        else
          let f := frame.put lvl.source cur
          let fs := f :: frames
          let onOk ← Term.allPass n env fs lvl.on
          if !onOk then pure (g, anyMatch)
          else
            let g := if lvl.rightJoin then g.mark lvl.source idx else g
            let ok ← Term.allPass n env fs lvl.filter
            if !ok then pure (g, true)
            else do
              let g ← joinLevels n env frames s mode rest f g
              pure (g, true)) (g, false)
    if lvl.outer && !anyMatch && !g.done then
      let f := frame.put lvl.source Cursor.null
      let ok ← Term.allPass n env (f :: frames) lvl.filter
      if ok then joinLevels n env frames s mode rest f g else pure g
    else pure g

/-- Adds, once the loops end, the rows of the right side of each right join that never joined:
the sources before it stand as rows of nulls, and the levels after it run as usual. -/
def rightJoinRows : Nat → Env → List LevelRow → SelectPlan → Sink → List Level → LevelRow → Gathered →
    Except Fault Gathered
  | 0, _, _, _, _, _, _, _ => throw exhausted
  | _ + 1, _, _, _, _, [], _, g => pure g
  | n + 1, env, frames, s, mode, lvl :: rest, frame, g => do
    let g ← if lvl.rightJoin && !g.done then do
        let (rows, g) ← levelRows n env frames s lvl g
        let marks := g.matched.getD lvl.source #[]
        rows.zipIdx.foldlM (fun (g : Gathered) (cur, idx) => do
          if g.done || marks.getD idx false then pure g
          else
            let f := frame.put lvl.source cur
            joinLevels n env frames s mode rest f g) g
      else pure g
    rightJoinRows n env frames s mode rest frame g

/-- The rows a level visits, in its order, read once and kept. -/
def levelRows : Nat → Env → List LevelRow → SelectPlan → Level → Gathered →
    Except Fault (List Cursor × Gathered)
  | 0, _, _, _, _, _ => throw exhausted
  | n + 1, env, frames, s, lvl, g =>
    match g.cache.getD lvl.source none with
    | some rows => pure (rows, g)
    | none => do
      let kind := s.sources.getD lvl.source default
      let stored ← sourceRows n env frames kind
      let ordered := match lvl.visit, kind with
        | .index name, .table tname =>
          match env.store.table? tname with
          | some t =>
            match t.index? name with
            | some ix => t.indexOrder ix
            | none => stored
          | none => stored
        | .auto keys extra, _ => autoOrder keys extra stored
        | _, _ => stored
      let rows := if lvl.reverse then ordered.reverse else ordered
      pure (rows, { g with cache := g.cache.setIfInBounds lvl.source (some rows) })

/-- The rows of a source in the order it keeps them. -/
def sourceRows : Nat → Env → List LevelRow → SourceKind → Except Fault (List Cursor)
  | 0, _, _, _ => throw exhausted
  | n + 1, env, frames, kind =>
    match kind with
    | .table name =>
      if sameName name "sqlite_master" then pure (schemaRows env.store)
      else
        match env.store.table? name with
        | some t => pure (t.rows.map t.cursor)
        | none => throw (Fault.error s!"no such table: {name}")
    | .query q => do
      let rows ← runQuery n env frames q none
      pure (rows.map fun r => ⟨r.toArray, none⟩)
    | .working id =>
      match env.working.find? (·.1 == id) with
      | some (_, row) => pure [⟨row.toArray, none⟩]
      | none => pure []
    | .recursive id setup step unionAll orderBy limit offset => do
      let noFrames : List LevelRow := []
      let lim ← match limit with
        | some t => do
          let v ← Term.eval n env noFrames t
          let i ← mustBeInteger v
          pure (if i < 0 then none else some i.toNat)
        | none => pure none
      let off ← match offset with
        | some t => do
          let v ← Term.eval n env noFrames t
          let i ← mustBeInteger v
          pure (if i < 0 then 0 else i.toNat)
        | none => pure 0
      if lim == some 0 then pure []
      else
        let first ← runQuery n env frames setup none
        let (queue, seen) := if unionAll then (first, [])
          else first.foldl (fun (acc : List (List Datum) × List (List Datum)) r =>
            if acc.2.any (sameUnder (r.map fun _ => .binary) r) then acc else (acc.1 ++ [r], acc.2 ++ [r])) ([], [])
        let out ← recursiveLoop n env frames id step unionAll orderBy lim off queue seen []
        pure (out.map fun r => ⟨r.toArray, none⟩)

/-- Runs a recursive common table expression: takes the next row of the queue (the first, or
the least under its order), puts it out (after `offset` rows have been skipped, until `limit`
rows are out), and queues the rows the recursive part gives for it. -/
def recursiveLoop : Nat → Env → List LevelRow → Nat → QueryPlan → Bool → List SortKey →
    Option Nat → Nat → List (List Datum) → List (List Datum) → List (List Datum) →
    Except Fault (List (List Datum))
  | 0, _, _, _, _, _, _, _, _, _, _, out => pure out
  | n + 1, env, frames, id, step, unionAll, orderBy, lim, off, queue, seen, out => do
    match queue with
    | [] => pure out
    | _ => do
      let (row, rest) ← if orderBy.isEmpty then pure (queue.headD [], queue.drop 1)
        else do
          let keyed ← queue.mapM fun r => do
            let f : LevelRow := { cursors := #[⟨r.toArray, none⟩] }
            let ks ← Term.evalAll n env (f :: frames) (orderBy.map (·.term))
            pure (r, ks)
          let best := keyed.zipIdx.foldl (fun (b : Option ((List Datum × List Datum) × Nat)) e =>
            match b with
            | none => some e
            | some (x, _) => if orderByKeys orderBy e.1.2 x.2 == .lt then some e else b) none
          match best with
          | some ((r, _), i) => pure (r, queue.eraseIdx i)
          | none => pure (queue.headD [], queue.drop 1)
      let (out, off, stop) :=
        if off > 0 then (out, off - 1, false)
        else
          let out := out ++ [row]
          (out, 0, lim == some out.length)
      if stop then pure out
      else
        let newRows ← runQuery n { env with working := (id, row) :: env.working } frames step none
        let (queue, seen) := if unionAll then (rest ++ newRows, seen)
          else newRows.foldl (fun (acc : List (List Datum) × List (List Datum)) r =>
            if acc.2.any (sameUnder (r.map fun _ => .binary) r) then acc else (acc.1 ++ [r], acc.2 ++ [r])) (rest, seen)
        recursiveLoop n env frames id step unionAll orderBy lim off queue seen out

/-- Hands a combination of rows that the loops formed on, once the conditions left for the end
hold: its result row (with its sort key values, and once only under `distinct`), or the
combination itself when the query aggregates or has windows. -/
def emitRow : Nat → Env → List LevelRow → SelectPlan → Sink → LevelRow → Gathered → Except Fault Gathered
  | 0, _, _, _, _, _, _ => throw exhausted
  | n + 1, env, frames, s, mode, frame, g => do
    let fs := frame :: frames
    let ok ← Term.allPass n env fs s.filter
    if !ok then pure g
    else
      match mode with
      | .frames => pure { g with frames := g.frames.push frame }
      | .results keys early => do
        let row ← Term.evalAll n env fs s.results
        let repeated := match s.distinct with
          | some colls => g.rows.any fun (r, _) => sameUnder colls r row
          | none => false
        if repeated then pure g
        else
          let ks ← Term.evalAll n env fs (keys.map (·.term))
          let rows := g.rows.push (row, ks)
          let done := match early with
            | some e => rows.size ≥ e
            | none => false
          pure { g with rows, done }

/-- The groups of an aggregate query, each as the frame its result is read in: the row it last
loaded with its aggregate values, for the groups whose `having` holds. -/
def groupFrames : Nat → Env → List LevelRow → SelectPlan → List LevelRow → Except Fault (List LevelRow)
  | 0, _, _, _, _ => throw exhausted
  | n + 1, env, frames, s, rows => do
    let keyed ← rows.mapM fun f => do
      let ks ← Term.evalAll n env (f :: frames) (s.groupBy.map (·.term))
      pure (f, ks)
    let groups : List (List LevelRow) :=
      if s.groupBy.isEmpty then [rows]
      else
        let sorted := if s.groupInOrder then keyed
          else stableSort (fun a b => orderByKeys s.groupBy a.2 b.2) keyed
        let plain := s.groupBy.map fun k => { k with descending := false }
        (runsOf (fun a b => orderByKeys plain a.2 b.2 == .eq) sorted).map (·.map (·.1))
    let nulls : LevelRow := { cursors := Array.replicate s.sources.length Cursor.null }
    let hasExtreme := s.aggregates.any fun a => a.fn == .min || a.fn == .max
    let (out, _, _) ← groups.foldlM (fun (acc : List LevelRow × Bool × LevelRow) grp => do
        let (out, flag, loaded) := acc
        let values ← s.aggregates.mapM (aggregateOver n env frames grp)
        let steps ← s.aggregates.mapM (extremeFlags n env frames grp)
        let (flag, loaded) :=
          if hasExtreme then
            grp.zipIdx.foldl (fun (st : Bool × LevelRow) (f, i) =>
              let flag := steps.foldl (fun fl st => match st.getD i none with
                | some newBest => !newBest
                | none => fl) st.1
              (flag, if !flag then f else st.2)) (flag, loaded)
          else
            match grp with
            | f :: _ => (flag, f)
            | [] => (flag, loaded)
        let gf : LevelRow := { loaded with aggregates := values.toArray }
        let keep ← match s.having with
          | some h => do
            let v ← Term.eval n env (gf :: frames) h
            pure v.passes
          | none => pure true
        pure (if keep then out ++ [gf] else out, flag, loaded)) ([], false, nulls)
    pure out

/-- The value of an aggregate over the rows of a group. -/
def aggregateOver : Nat → Env → List LevelRow → List LevelRow → AggregateCall → Except Fault Datum
  | 0, _, _, _, _ => throw exhausted
  | n + 1, env, frames, grp, a => do
    let inputs ← grp.filterMapM fun f => do
      let fs := f :: frames
      let pass ← match a.filter with
        | some t => do
          let v ← Term.eval n env fs t
          pure v.passes
        | none => pure true
      if !pass then pure none
      else do
        let args ← Term.evalTaggedAll n env fs a.args
        let ks ← Term.evalAll n env fs (a.orderBy.map (·.term))
        pure (some (args, ks))
    let ordered := if a.orderBy.isEmpty then inputs
      else stableSort (fun x y => orderByKeys a.orderBy x.2 y.2) inputs
    let args := ordered.map (·.1)
    let args := if a.distinct then
        args.foldl (fun (acc : List (List JsonArg)) r =>
          if acc.any (fun p => compareDatum a.collation (p.headD (.null, false)).1
              (r.headD (.null, false)).1 == .eq) then acc
          else acc ++ [r]) []
      else args
    match a.fn with
    | .jsonGroupArray binary =>
      match jsonGroupArray binary (args.map (·.headD (.null, false))) with
      | .ok v => pure v.1
      | .error e => throw e
    | .jsonGroupObject binary =>
      match jsonGroupObject binary (args.map fun r => (r.headD (.null, false), r.getD 1 (.null, false))) with
      | .ok v => pure v.1
      | .error e => throw e
    | f => aggregateValue f a.collation (args.map (·.map (·.1)))

/-- For a `min` or `max` aggregate, whether each row of a group gave it a new extreme (none
for a row it did not see); nothing for any other aggregate. -/
def extremeFlags : Nat → Env → List LevelRow → List LevelRow → AggregateCall →
    Except Fault (List (Option Bool))
  | 0, _, _, _, _ => throw exhausted
  | n + 1, env, frames, grp, a =>
    if a.fn != .min && a.fn != .max then pure (grp.map fun _ => none)
    else do
      let seen ← grp.mapM fun f => do
        let fs := f :: frames
        let pass ← match a.filter with
          | some t => do
            let v ← Term.eval n env fs t
            pure v.passes
          | none => pure true
        if !pass then pure none
        else do
          let args ← Term.evalAll n env fs a.args
          pure (some (args.headD .null))
      let values := seen.filterMap id
      let flags := extremeSteps (a.fn == .max) a.collation values
      let (out, _) := seen.foldl (fun (acc : List (Option Bool) × List Bool) v =>
        match v with
        | some _ => (acc.1 ++ [some (acc.2.headD false)], acc.2.drop 1)
        | none => (acc.1 ++ [none], acc.2)) ([], flags)
      pure out

/-- The rows of a query with their window values, in the order of the first window. -/
def windowFrames : Nat → Env → List LevelRow → SelectPlan → List LevelRow → Except Fault (List LevelRow)
  | 0, _, _, _, _ => throw exhausted
  | n + 1, env, frames, s, rows => do
    let groups := windowGroups s.windows
    let sized := rows.map fun f => { f with windows := Array.replicate s.windowCalls.length .null }
    groups.reverse.foldlM (fun (acc : List LevelRow) (w, slots) =>
      windowPass n env frames s w slots acc) sized

/-- Sorts the rows by a window's partition and order and computes the calls over it. -/
def windowPass : Nat → Env → List LevelRow → SelectPlan → WindowDef → List Nat → List LevelRow →
    Except Fault (List LevelRow)
  | 0, _, _, _, _, _, _ => throw exhausted
  | n + 1, env, frames, s, w, slots, rows => do
    let keyed ← rows.mapM fun f => do
      let fs := f :: frames
      let p ← Term.evalAll n env fs (w.partition.map (·.term))
      let o ← Term.evalAll n env fs (w.orderBy.map (·.term))
      pure (Windowed.mk f p o)
    let sorted := stableSort (fun a b =>
      match orderByKeys w.partition a.partKey b.partKey with
      | .eq => orderByKeys w.orderBy a.orderKey b.orderKey
      | o => o) keyed
    let parts := runsOf (fun a b => orderByKeys w.partition a.partKey b.partKey == .eq) sorted
    let noFrames : List LevelRow := []
    let startOff ← match w.start with
      | .preceding t | .following t => do
        let v ← Term.eval n env noFrames t
        pure (some v)
      | _ => pure none
    let endOff ← match w.finish with
      | .preceding t | .following t => do
        let v ← Term.eval n env noFrames t
        pure (some v)
      | _ => pure none
    let checkOffset (isStart : Bool) (v : Option Datum) : Except Fault Unit :=
      let which := if isStart then "starting" else "ending"
      match v with
      | none => pure ()
      | some d =>
        match w.unit with
        | .range =>
          match d with
          | .integer i => if i < 0 then throw (Fault.error s!"frame {which} offset must be a non-negative number") else pure ()
          | .real x => if x < 0.0 then throw (Fault.error s!"frame {which} offset must be a non-negative number") else pure ()
          | _ => throw (Fault.error s!"frame {which} offset must be a non-negative number")
        | _ =>
          match d with
          | .integer i => if i < 0 then throw (Fault.error s!"frame {which} offset must be a non-negative integer") else pure ()
          | _ => throw (Fault.error s!"frame {which} offset must be a non-negative integer")
    checkOffset true startOff
    checkOffset false endOff
    let done ← parts.mapM fun part => do
      let arr := part.toArray
      let vals ← slots.mapM fun slot => do
        let call := s.windowCalls.getD slot default
        let vs ← windowValues n env frames w call arr startOff endOff
        pure (slot, vs)
      pure ((List.range arr.size).map fun i =>
        let f := (arr.getD i default).frame
        let ws := vals.foldl (fun ws (slot, vs) => ws.setIfInBounds slot (vs.getD i .null)) f.windows
        { f with windows := ws })
    pure done.flatten

/-- The values of a window call for each row of a sorted partition. -/
def windowValues : Nat → Env → List LevelRow → WindowDef → WindowCall → Array Windowed →
    Option Datum → Option Datum → Except Fault (List Datum)
  | 0, _, _, _, _, _, _, _ => throw exhausted
  | n + 1, env, frames, w, call, rows, startOff, endOff => do
    let size := rows.size
    let argsAt (j : Nat) : Except Fault (List Datum) :=
      Term.evalAll n env ((rows.getD j default).frame :: frames) call.args
    let passes (j : Nat) : Except Fault Bool :=
      match call.filter with
      | some t => do
        let v ← Term.eval n env ((rows.getD j default).frame :: frames) t
        pure v.passes
      | none => pure true
    let groups := peerGroups w rows
    (List.range size).mapM fun i => do
      let (plo, phi) := peerRange w rows i
      match call.kind with
      | .aggregate f => do
        let inFrame := frameRows w rows i startOff endOff
        let inputs ← inFrame.filterMapM fun j => do
          let ok ← passes j
          if ok then do
            let a ← argsAt j
            pure (some a)
          else pure none
        aggregateValue f call.collation inputs
      | .builtin fn =>
        match fn with
        | .rowNumber => pure (.integer (i + 1))
        | .rank => pure (.integer (plo + 1))
        | .denseRank =>
          pure (.integer ((groups.findIdx? fun (a, _) => a == plo).getD 0 + 1))
        | .percentRank =>
          pure (.real (if size ≤ 1 then 0.0 else floatOfInt plo / floatOfInt (size - 1)))
        | .cumeDist => pure (.real (floatOfInt (phi + 1) / floatOfInt size))
        | .ntile => do
          let a ← argsAt i
          match a.headD .null with
          | .integer k =>
            if k ≤ 0 then throw (Fault.error "argument of ntile must be a positive integer")
            else
              let k := k.toNat
              let per := size / k
              let extra := size % k
              let big := extra * (per + 1)
              pure (.integer (if i < big then i / (per + 1) + 1
                else if per == 0 then i + 1 else (i - big) / per + extra + 1))
          | _ => throw (Fault.error "argument of ntile must be a positive integer")
        | .lag | .lead => do
          let a ← argsAt i
          let off : Int := match a.getD 1 (.integer 1) with
            | .integer k => k
            | d => d.intValue
          let j : Int := if fn == .lag then (i : Int) - off else (i : Int) + off
          if 0 ≤ j && j < size then do
            let b ← argsAt j.toNat
            pure (b.headD .null)
          else pure (a.getD 2 .null)
        | .firstValue => do
          match frameRows w rows i startOff endOff with
          | j :: _ => do
            let b ← argsAt j
            pure (b.headD .null)
          | [] => pure .null
        | .lastValue => do
          match (frameRows w rows i startOff endOff).getLast? with
          | some j => do
            let b ← argsAt j
            pure (b.headD .null)
          | none => pure .null
        | .nthValue => do
          let a ← argsAt i
          match a.getD 1 .null with
          | .integer k =>
            if k ≤ 0 then throw (Fault.error "second argument to nth_value must be a positive integer")
            else
              match (frameRows w rows i startOff endOff)[k.toNat - 1]? with
              | some j => do
                let b ← argsAt j
                pure (b.headD .null)
              | none => pure .null
          | _ => throw (Fault.error "second argument to nth_value must be a positive integer")

end

end RecordMap.Sql
