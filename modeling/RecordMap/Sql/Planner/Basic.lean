import RecordMap.Sql.Walk

/-!
# What the planner is given and what it decides

The planner reads a query's sources, its conditions split at their top-level `and`s, the columns
the query reads of each source, and the order the query wants its rows in. It decides which
source each loop of the join visits, outermost first, and in which order each loop visits its
rows.

Sets of sources are numbers whose bits are the sources' places in the `from` clause: a source
`i` is the bit `2 ^ i`. Union is `|||`, intersection `&&&`, and `SourceSet.diff` removes one set
from another.
-/

namespace RecordMap.Sql

/-- A set of the sources of a query, as the bits of a number. -/
abbrev SourceSet := Nat

namespace SourceSet

def single (i : Nat) : SourceSet := 1 <<< i

def ofList (l : List Nat) : SourceSet := l.foldl (fun m i => m ||| single i) 0

/-- The sources of `a` that are not in `b`. -/
def diff (a b : SourceSet) : SourceSet := a ^^^ (a &&& b)

/-- Whether every source of `a` is in `b`. -/
def sub (a b : SourceSet) : Bool := a &&& b == a

/-- Whether two sets have no source in common. -/
def disjoint (a b : SourceSet) : Bool := a &&& b == 0

/-- Whether a source is in the set. -/
def has (a : SourceSet) (i : Nat) : Bool := a.testBit i

/-- Every source before `i`. -/
def below (i : Nat) : SourceSet := single i - 1

end SourceSet

/-- A source of a query as the planner sees it: the stored table it reads, if any (with its
indexes), whether it is a subquery, view or common table expression, how it joins the sources
before it, its `indexed by` or `not indexed`, and whether it is the row a recursive common table
expression is working on. -/
structure PlanSource where
  table : Option Table
  derived : Bool
  join : JoinKind
  hint : IndexHint
  recursive : Bool := false
  deriving Inhabited

/-- A condition of the `where` clause, or of an `on` clause; `onOf` is the right source of the
outer join whose `on` clause holds it. -/
structure PlanTerm where
  term : Term
  onOf : Option Nat
  deriving Inhabited

/-- What the order of a query's rows should serve: nothing, an `order by`, the groups of a
`group by`, or the repeated rows of a `distinct`. -/
inductive OrderGoal where
  | none
  | orderBy
  | groupBy
  | distinct
  deriving Repr, DecidableEq, Inhabited

/-- The order the planner is asked for: the sort keys, what they serve, whether repeated rows
are dropped, how many result columns the query has, and the limit when it is a number. -/
structure PlanGoal where
  keys : List SortKey
  kind : OrderGoal
  wantDistinct : Bool
  width : Nat
  limit : Option Nat := none
  deriving Inhabited

/-- A loop of a plan: its source, its visit order and whether it runs backwards. -/
structure LoopChoice where
  source : Nat
  visit : Visit
  reverse : Bool
  deriving Inhabited

end RecordMap.Sql
