import RecordMap.Sql.Planner.Access

/-!
# Conditions as bounds on columns

Each condition of a query is read for what it says about a single column of one source: that
the column equals something, lies in a list, is null, or lies above or below something. Such a
condition can bound a search of an index on the column, provided what it compares the column
with can be computed before that source's loop runs: `needs` is the set of sources it reads
apart from the column, `reads` every source it reads.

A comparison between two columns bounds either of them: the condition stands for the first, and
a derived copy, turned around, for the second. `x between a and b` bounds `x` by two derived
comparisons, `x >= a` and `x <= b`, and `x is not null` by a derived `x > null` that excludes
only nulls. A derived condition serves to bound a search and is otherwise checked through the
condition it was derived from.

A condition of the `on` clause of an outer join reads the join's right source as well, so that
it is checked no earlier than that source's loop; a column of a source before the join may not
be bounded by it.

The conditions are read from the last to the first, and every derived condition is added after
all those written, so that a condition's place in the list is fixed by the order they are read
in.
-/

namespace RecordMap.Sql

/-- How a condition bounds a column. -/
inductive ColumnBound where
  | eq
  | is
  | null
  | lt
  | le
  | gt
  | ge
  /-- Membership in a list of values, and how many values it has. -/
  | list (count : Nat)
  /-- Membership in the rows of a subquery. -/
  | query
  deriving Repr, DecidableEq, Inhabited

namespace ColumnBound

/-- The bound a comparison makes once its sides are swapped. -/
def flip : ColumnBound → ColumnBound
  | .lt => .gt
  | .le => .ge
  | .gt => .lt
  | .ge => .le
  | b => b

/-- Whether it is `=` or `is`. -/
def isEquality : ColumnBound → Bool
  | .eq | .is => true
  | _ => false

/-- Whether it is a lower bound. -/
def isLower : ColumnBound → Bool
  | .gt | .ge => true
  | _ => false

/-- Whether it is an upper bound. -/
def isUpper : ColumnBound → Bool
  | .lt | .le => true
  | _ => false

/-- Whether it is membership in a list or a subquery. -/
def isMembership : ColumnBound → Bool
  | .list _ | .query => true
  | _ => false

/-- Whether it binds the column to values that an index search visits one by one: equality,
membership or nullness. -/
def isPoint (b : ColumnBound) : Bool := b.isEquality || b.isMembership || b == .null

end ColumnBound

/-- A condition as the planner sees it. -/
structure WhereTerm where
  /-- The condition; for a derived one, the comparison it stands for. -/
  term : Term
  /-- The place of the condition this one was derived from. -/
  parent : Option Nat := none
  /-- Whether it was derived from another condition. -/
  derived : Bool := false
  /-- The outer join whose `on` clause holds it. -/
  onOf : Option Nat := none
  /-- The sources it reads apart from its column. -/
  needs : SourceSet := 0
  /-- Every source it reads, and the right source of its outer join. -/
  reads : SourceSet := 0
  /-- The column it bounds: a source and a column, none for the rowid. -/
  column : Option (Nat × Option Nat) := none
  bound : Option ColumnBound := none
  /-- The affinity and collation the comparison is made under. -/
  comparer : Comparer := Comparer.plain
  /-- Whether it is the derived `x > null` of `x is not null`. -/
  excludesNull : Bool := false
  /-- Whether what the column is compared with is an integer between -1 and 1. -/
  smallInteger : Bool := false
  deriving Inhabited

/-- The column a term is, when it is a column of the query's own sources. -/
def Term.ownColumn? : Term → Option (Nat × Option Nat)
  | .column ⟨0, s, c⟩ => some (s, c)
  | _ => none

/-- Whether a term is an integer literal between -1 and 1. -/
def Term.isSmallInteger : Term → Bool
  | .value (.integer k) => -1 ≤ k && k ≤ 1
  | .plus (.value (.integer k)) => -1 ≤ k && k ≤ 1
  | .negate (.value (.integer k)) => -1 ≤ k && k ≤ 1
  | _ => false

def Term.sourceSet (t : Term) : SourceSet := SourceSet.ofList t.sources

/-- The sources of the enclosing query that a subquery reads. -/
def QueryPlan.outerSources (q : QueryPlan) : SourceSet :=
  SourceSet.ofList ((q.reads walkFuel 1).map (·.1))

/-- The bound a comparison operator makes, if any. -/
def CompareOp.bound? (op : CompareOp) (right : Term) : Option ColumnBound :=
  match op, right with
  | .is, .value .null => some .null
  | .eq, _ => some .eq
  | .is, _ => some .is
  | .lt, _ => some .lt
  | .le, _ => some .le
  | .gt, _ => some .gt
  | .ge, _ => some .ge
  | _, _ => none

/-- The affinity and collation of a column of a source. -/
def columnComparer (sources : List PlanSource) (src : Nat) (col : Nat) : Comparer :=
  match (sources.getD src default).table with
  | some t =>
    let c := t.columns.getD col default
    ⟨c.affinity, c.collation⟩
  | none => Comparer.plain

/-- Reads the condition at place `i`, setting what it bounds and adding the conditions derived
from it. A `between` adds its two comparisons, each read in its turn. -/
def analyzeTerm (sources : List PlanSource) : Nat → Array WhereTerm → Nat → Array WhereTerm
  | 0, terms, _ => terms
  | fuel + 1, terms, i =>
    let w := terms.getD i default
    let onMask := match w.onOf with
      | some j => SourceSet.single j
      | none => 0
    let extraRight := match w.onOf with
      | some j => SourceSet.below j
      | none => 0
    let whole := w.term.sourceSet ||| onMask
    match w.term with
    | .compare op c l r =>
      let pl := l.sourceSet
      let pr := r.sourceSet
      let usable := pl &&& pr == 0
      let b := if usable then op.bound? r else none
      let w := { w with needs := pr, reads := whole }
      let left := l.ownColumn?
      let w := match left with
        | some col => { w with column := some col, bound := b, comparer := c,
                               smallInteger := r.isSmallInteger }
        | none => w
      match r.ownColumn?, b with
      | some col, some rb =>
        let turned := { w with column := some col, bound := some rb.flip, needs := pl ||| extraRight,
                               comparer := c, smallInteger := l.isSmallInteger }
        if left.isSome then
          (terms.set! i w).push { turned with parent := some i, derived := true }
        else terms.set! i turned
      | _, _ => terms.set! i w
    | .isNull negated x =>
      let w := { w with reads := whole }
      match x.ownColumn? with
      | some (src, col) =>
        if !negated then terms.set! i { w with column := some (src, col), bound := some .null }
        else
          match col, w.onOf with
          | some k, none =>
            (terms.set! i w).push
              { term := w.term, parent := some i, derived := true, reads := whole,
                column := some (src, some k), bound := some .gt,
                comparer := columnComparer sources src k, excludesNull := true }
          | _, _ => terms.set! i w
      | none => terms.set! i w
    | .between false lc hc x lo hi =>
      let w := { w with reads := whole, needs := lo.sourceSet ||| hi.sourceSet }
      let terms := terms.set! i w
      let lower : WhereTerm := { term := .compare .ge lc x lo, parent := some i, derived := true,
                                 onOf := w.onOf }
      let terms := terms.push lower
      let terms := analyzeTerm sources fuel terms (terms.size - 1)
      let upper : WhereTerm := { term := .compare .le hc x hi, parent := some i, derived := true,
                                 onOf := w.onOf }
      let terms := terms.push upper
      analyzeTerm sources fuel terms (terms.size - 1)
    | .inList false c x items =>
      let needs := SourceSet.ofList (items.flatMap Term.sources)
      let w := { w with reads := whole, needs }
      match x.ownColumn? with
      | some col => terms.set! i { w with column := some col, bound := some (.list items.length),
                                          comparer := c }
      | none => terms.set! i w
    | .inQuery false [c] x q =>
      let w := { w with reads := whole, needs := q.outerSources }
      match x.ownColumn? with
      | some col => terms.set! i { w with column := some col, bound := some .query, comparer := c }
      | none => terms.set! i w
    | _ => terms.set! i { w with reads := whole }

/-- Reads the conditions of a query, from the last to the first. -/
def analyzeTerms (sources : List PlanSource) (conds : List PlanTerm) : Array WhereTerm :=
  let terms : Array WhereTerm := (conds.map fun c => ({ term := c.term, onOf := c.onOf } : WhereTerm)).toArray
  (List.range conds.length).reverse.foldl (fun acc i => analyzeTerm sources 4 acc i) terms

/-- Whether a loop that uses the conditions at `used` checks the condition at `i` by them:
it uses it, or a condition derived from it. -/
def checkedBy (terms : Array WhereTerm) (used : List Nat) (i : Nat) : Bool :=
  used.any fun j => j == i || (terms.getD j default).parent == some i

end RecordMap.Sql
