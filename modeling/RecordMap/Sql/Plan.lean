import RecordMap.Sql.Aggregate
import RecordMap.Sql.Store

/-!
# Compiled queries

A compiled query is what a parsed query becomes once its names are looked up against a store
and its loops are planned. Nothing in it is a name any more:

* a column is a `ColumnRef`: how many query levels out it lives, which source of that level,
  and which column (none for the rowid);
* a comparison carries its `Comparer`, the affinity both operands are converted by and the
  collation text is compared under, both fixed when the query is compiled;
* an aggregate or a window function is a slot whose value the evaluator fills in for the
  current group or row;
* a `select` core lists its sources in the order they were written and its `Level`s in the
  order the loops nest, each level with the order it visits its source's rows in.

A level's visit order changes only the order in which rows come: every condition of the query
is checked on every row, so that the rows a query returns do not depend on the plan, and the
plan decides only their order.
-/

namespace RecordMap.Sql

/-- A column a term reads: how many query levels out (0 for the query the term is in), which
source of that level, and which column; none is the rowid. -/
structure ColumnRef where
  depth : Nat
  source : Nat
  column : Option Nat
  deriving Repr, DecidableEq, Inhabited

/-- How two values are compared: the affinity applied to both first, and the collation that
orders text. -/
structure Comparer where
  affinity : Affinity
  collation : Collation
  deriving Repr, DecidableEq, Inhabited

/-- A comparer that converts nothing and compares text bytewise. -/
def Comparer.plain : Comparer := ⟨.none, .binary⟩

/-- How a window function computes its value. -/
inductive WindowKind where
  /-- One of the functions that exist only over windows. -/
  | builtin (f : WindowFn)
  /-- An aggregate over the rows of the frame. -/
  | aggregate (f : AggregateFn)
  deriving Repr, DecidableEq, Inhabited

/-- The order in which a loop visits the rows of its source.

* `stored`: the order the source keeps its rows in (rowid order for a table, primary key order
  for a table without rowid, production order for a subquery).
* `index name`: the order of the entries of an index of the table: by its key, then rowid.
* `auto keys extra`: the order of an index the query builds for itself: by the key columns
  under their collations, then by the other columns the query reads, then by rowid. -/
inductive Visit where
  | stored
  | index (name : String)
  | auto (keys : List (Nat × Collation)) (extra : List Nat)
  deriving Repr, Inhabited

mutual

/-- A compiled expression. -/
inductive Term where
  | value (d : Datum)
  | param (slot : Nat)
  | column (r : ColumnRef)
  /-- Unary plus: the value of `t`, which the planner then does not see as a column. -/
  | plus (t : Term)
  | negate (t : Term)
  | bitNot (t : Term)
  | not (t : Term)
  | arith (op : ArithOp) (l r : Term)
  | bits (op : BitOp) (l r : Term)
  | concat (l r : Term)
  | compare (op : CompareOp) (c : Comparer) (l r : Term)
  /-- Two row values compared place by place, each place with its comparer. -/
  | compareRows (op : CompareOp) (cs : List Comparer) (l r : Term)
  | and (l r : Term)
  | or (l r : Term)
  /-- `x is [not] true` and `x is [not] false`: whether the truth of `x` is `wanted`. -/
  | truth (wanted negated : Bool) (t : Term)
  /-- `x between lo and hi`, with the comparers of `x >= lo` and `x <= hi`. -/
  | between (negated : Bool) (low high : Comparer) (x lo hi : Term)
  | inList (negated : Bool) (c : Comparer) (x : Term) (items : List Term)
  /-- `x in (select …)`, each place of a row value `x` with its comparer. -/
  | inQuery (negated : Bool) (cs : List Comparer) (x : Term) (q : QueryPlan)
  | isNull (negated : Bool) (t : Term)
  | cases (operand : Option Term) (arms : List CaseArm) (otherwise : Option Term)
  | cast (a : Affinity) (t : Term)
  /-- A scalar function, with the collation it compares text by. -/
  | call (f : ScalarFn) (coll : Collation) (args : List Term)
  /-- The first argument that is not null. -/
  | coalesce (args : List Term)
  | iif (c a b : Term)
  | aggregate (slot : Nat)
  | window (slot : Nat)
  | exists (q : QueryPlan)
  | scalar (q : QueryPlan)
  | row (items : List Term)
  | raise (kind : RaiseKind) (message : Term)
  /-- Evaluates the arguments, then fails: an operator the engine has no function for. -/
  | failure (f : Fault) (args : List Term)

/-- An arm of a `case`: the value or condition it tests, the comparer of `operand = test`, and
its result. -/
structure CaseArm where
  test : Term
  comparer : Comparer
  result : Term

/-- A sort key: a term, the collation of its text, its direction, and where nulls go. -/
structure SortKey where
  term : Term
  collation : Collation
  descending : Bool
  nullsFirst : Bool

/-- A bound of a window frame. -/
inductive Bound where
  | unboundedPreceding
  | preceding (t : Term)
  | currentRow
  | following (t : Term)
  | unboundedFollowing

/-- A window: its partition, its order and its frame. -/
structure WindowDef where
  partition : List SortKey
  orderBy : List SortKey
  unit : FrameUnit
  start : Bound
  finish : Bound
  exclude : FrameExclude

/-- A window function call of a query: what it computes, its arguments, its `filter`, the
window it runs over (a place in the query's list of windows), and its collation. -/
structure WindowCall where
  kind : WindowKind
  args : List Term
  filter : Option Term
  window : Nat
  collation : Collation

/-- An aggregate call of a query: the aggregate, its arguments, whether over distinct values,
its `filter`, the order it takes its rows in, and its collation. -/
structure AggregateCall where
  fn : AggregateFn
  args : List Term
  distinct : Bool
  filter : Option Term
  orderBy : List SortKey
  collation : Collation

/-- What a source of a query reads. -/
inductive SourceKind where
  /-- A table of the store, or the schema table. -/
  | table (name : String)
  /-- The rows of a query: a subquery, a view or a common table expression. -/
  | query (q : QueryPlan)
  /-- The row a recursive common table expression is working on. -/
  | working (id : Nat)
  /-- A recursive common table expression: the queries that start it, the query run on each of
  its rows, whether repeated rows are kept, and the order, limit and offset of its rows. -/
  | recursive (id : Nat) (setup : QueryPlan) (step : QueryPlan) (unionAll : Bool) (orderBy : List SortKey)
      (limit offset : Option Term)

/-- A level of the loops of a `select`: the source it visits, in which order and direction, the
`on` conditions that decide whether a row joins (for an outer join), the other conditions
checked here, whether a row of nulls stands in when no row joins (a left join), and whether rows
of the source that never joined are added after the loops (a right join). -/
structure Level where
  source : Nat
  visit : Visit
  reverse : Bool
  on : List Term
  filter : List Term
  outer : Bool
  rightJoin : Bool

/-- A compiled `select` core.

* `sources` in the order they were written, `levels` in the order the loops nest;
* `guard`: the conditions that read no source, checked once before the loops;
* `filter`: the conditions checked once the loops have formed a row;
* `grouped`: whether the query aggregates; `groupBy` the group keys, `groupInOrder` whether the
  loops already bring each group's rows together, so that groups come in that order;
* `aggregates`, `windows` and `windowCalls` fill the slots the terms read;
* `results` the result columns; `distinct` the collations that tell result rows apart when
  repeated rows are dropped. -/
structure SelectPlan where
  sources : List SourceKind
  levels : List Level
  guard : List Term
  filter : List Term
  grouped : Bool
  groupBy : List SortKey
  groupInOrder : Bool
  aggregates : List AggregateCall
  having : Option Term
  windows : List WindowDef
  windowCalls : List WindowCall
  results : List Term
  distinct : Option (List Collation)

/-- The core of a query: a `select`, or the rows of a `values`. -/
inductive CorePlan where
  | select (s : SelectPlan)
  | values (rows : List (List Term))

/-- Cores joined by compound operators, left to right, each join with the collations that tell
rows apart. -/
inductive CompoundPlan where
  | core (c : CorePlan)
  | join (op : CompoundOp) (left : CompoundPlan) (right : CorePlan) (collations : List Collation)

/-- A compiled query: its body, its sort keys, its limit and offset, and its width.

For a body that is one `select` core, the sort keys are evaluated with each row of that core;
otherwise they read the columns of the query's own result rows, as source 0. -/
structure QueryPlan where
  body : CompoundPlan
  orderBy : List SortKey
  limit : Option Term
  offset : Option Term
  width : Nat

end

instance : Inhabited Term := ⟨Term.value .null⟩
instance : Inhabited CorePlan := ⟨CorePlan.values []⟩
instance : Inhabited CompoundPlan := ⟨CompoundPlan.core default⟩
instance : Inhabited QueryPlan := ⟨QueryPlan.mk default [] none none 0⟩
instance : Inhabited SortKey := ⟨SortKey.mk default .binary false true⟩
instance : Inhabited SourceKind := ⟨SourceKind.table ""⟩
instance : Inhabited AggregateCall := ⟨AggregateCall.mk .count [] false none [] .binary⟩
instance : Inhabited WindowCall := ⟨WindowCall.mk (.builtin .rowNumber) [] none 0 .binary⟩

/-- The result of a statement: column names, the rows it hands out as it is stepped, and the
fault of the step after them when that step failed. -/
structure Output where
  names : List String
  rows : List (List Datum)
  failure : Option Fault
  deriving Inhabited

end RecordMap.Sql
