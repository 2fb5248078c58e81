import RecordMap.Proofs.Query.Placeholders
import Mathlib.Data.List.Forall2

/-!
# Building a table query

A table query is built by calls in any order: filters, orderings, `take`, `skip`, `nextTake`
and `deferred` (`BuilderCall`). `TableQuery.runCalls` applies them in turn and stops at the first
that fails. From the query over every record of a type, which is what `Db.table` gives, a run:

* fails only at an ordering whose selector is no member of the record under conversions
  (`Expr.SortsBy`), and then with an unsupported-expression error (`runCalls_ok_iff`,
  `runCalls_error`);
* ends with the left-nested `and` of the filters in call order as predicate (`conjoin`), the
  orderings' storage names in call order, the last `take` as limit, and the offset that `skip`
  sets and `nextTake` moves on by the limit, saturating at the largest count (`paging`);
* renders `select … from "<table>"` with its where, order and limit clauses, and fails exactly
  when a join is recorded or the predicate does not compile (`generate_eq_ok_iff`,
  `generate_eq_error_iff`).

Each of these facts is one view of the query, carried from call to call (`foldlM_observe`). The
main statement is `builder_state_and_text`.
-/

namespace RecordMap

open RecordMap.Text

/-! ## Orderings -/

/-- A selector sorts by a property: the record's member of that name, under any number of
conversions. -/
inductive Expr.SortsBy : Expr → String → Prop
  | member (p : String) : Expr.SortsBy (.member .parameter p) p
  | convert {e : Expr} {p : String} (t : DataType) :
      Expr.SortsBy e p → Expr.SortsBy (.convert e t) p

theorem Expr.sortsBy_convert_iff {e : Expr} {t : DataType} {p : String} :
    (Expr.convert e t).SortsBy p ↔ e.SortsBy p :=
  ⟨fun h => by cases h with | convert _ h => exact h, Expr.SortsBy.convert t⟩

/-- An ordering resolves to the storage name of the mapped property its selector sorts by. -/
theorem resolveOrdering_eq_ok_iff {m : Mapping} {s : Expr} {name : String} :
    resolveOrdering m s = .ok name ↔
      ∃ p col, s.SortsBy p ∧ m.findByProperty p = some col ∧ name = col.name := by
  fun_induction resolveOrdering m s with
  | case1 p col hcol =>
    constructor
    · intro h
      cases h
      exact ⟨p, col, .member p, hcol, rfl⟩
    · rintro ⟨p', col', hs, hcol', rfl⟩
      cases hs
      rw [hcol] at hcol'
      cases hcol'
      rfl
  | case2 p hnone =>
    constructor
    · intro h
      cases h
    · rintro ⟨p', col, hs, hcol, -⟩
      cases hs
      rw [hnone] at hcol
      cases hcol
  | case3 operand t ih =>
    rw [ih]
    simp only [Expr.sortsBy_convert_iff]
  | case4 other hmember hconvert =>
    constructor
    · intro h
      cases h
    · rintro ⟨p, col, hs, -, -⟩
      cases hs with
      | member p => exact (hmember p rfl).elim
      | convert t _ => exact (hconvert _ t rfl).elim

theorem resolveOrdering_error {m : Mapping} {s : Expr} {e : Error}
    (h : resolveOrdering m s = .error e) : ∃ msg, e = .unsupportedExpression msg := by
  fun_induction resolveOrdering m s with
  | case1 p col hcol => cases h
  | case2 p hnone =>
    cases h
    exact ⟨_, rfl⟩
  | case3 operand t ih => exact ih h
  | case4 other hmember hconvert =>
    cases h
    exact ⟨_, rfl⟩

/-! ## Builder calls -/

/-- A call on a table query's builder: a filter, an ordering (`order_by` and `then_by` are
ascending, their `_desc` forms descending), `take`, `skip`, `next_take` and `deferred`. -/
inductive BuilderCall where
  | filter (p : Expr)
  | order (selector : Expr) (ascending : Bool)
  | take (n : Nat)
  | skip (n : Nat)
  | nextTake
  | deferred

namespace BuilderCall

/-- What a call does to a query; only an ordering can fail. -/
def apply (q : TableQuery) : BuilderCall → Outcome TableQuery
  | .filter p => .ok (q.filter p)
  | .order s ascending => q.addOrdering s ascending
  | .take n => .ok (q.take n)
  | .skip n => .ok (q.skip n)
  | .nextTake => .ok q.nextTake
  | .deferred => .ok q.deferred

/-- The predicate of a filter. -/
def filterOf? : BuilderCall → Option Expr
  | .filter p => some p
  | _ => none

/-- The selector and direction of an ordering. -/
def orderingOf? : BuilderCall → Option (Expr × Bool)
  | .order s ascending => some (s, ascending)
  | _ => none

/-- The count of a `take`. -/
def takeOf? : BuilderCall → Option Nat
  | .take n => some n
  | _ => none

end BuilderCall

/-- Applies builder calls in order, stopping at the first that fails. -/
def TableQuery.runCalls (q : TableQuery) (calls : List BuilderCall) : Outcome TableQuery :=
  calls.foldlM BuilderCall.apply q

/-- The left-nested `and` of predicates in order, `((p₁ and p₂) and p₃) …`; none without any. -/
def conjoin : List Expr → Option Expr
  | [] => none
  | p :: ps => some (ps.foldl (.binary .and) p)

/-- Addition of counts that stops at the largest count, as `usize::saturating_add`. -/
def satAdd (a b : Nat) : Nat := min (a + b) maxCount

/-- Limit and offset after a call: `take` sets the limit, `skip` the offset, and `nextTake`, with
a limit `l`, makes the offset `l` or moves it on by `l`; nothing else touches them. -/
def paging : Option Nat × Option Nat → BuilderCall → Option Nat × Option Nat
  | (_, o), .take n => (some n, o)
  | (l, _), .skip n => (l, some n)
  | (some l, o), .nextTake => (some l, some (o.elim l (satAdd · l)))
  | lo, _ => lo

/-- An ordering call and the ordering it appends: the storage name of the mapped property its
selector sorts by, with its direction. -/
def OrdersBy (m : Mapping) (call : Expr × Bool) (o : Ordering) : Prop :=
  ∃ p col, call.1.SortsBy p ∧ m.findByProperty p = some col ∧ o = ⟨col.name, call.2⟩

/-- The predicate after a call: a filter is conjoined last, and nothing else touches it. -/
def predicateStep (acc : Option Expr) (c : BuilderCall) : Option Expr :=
  match c.filterOf? with
  | some p => some (acc.elim p (.binary .and · p))
  | none => acc

/-- The where clause of a predicate and the values it binds: nothing for no predicate, else
` where ` and the compiled predicate with its arguments. -/
def whereClause (m : Mapping) : Option Expr → Outcome (String × List Host)
  | none => .ok ("", [])
  | some p => (compile m p []).map fun (c, args) => (" where " ++ c.sql, args)

theorem bind_eq_error {ε α β : Type} {x : Except ε α} {f : α → Except ε β} {e : ε} :
    x >>= f = .error e ↔ x = .error e ∨ ∃ a, x = .ok a ∧ f a = .error e := by
  cases x <;> simp [bind, Except.bind]

/-! ## One call -/

namespace BuilderCall

variable {q q' : TableQuery}

theorem apply_order_eq_ok {s : Expr} {ascending : Bool}
    (h : (BuilderCall.order s ascending).apply q = .ok q') :
    ∃ o, OrdersBy q.mapping (s, ascending) o ∧
      q' = { q with state := { q.state with orderings := some (q.state.orderings.getD [] ++ [o]) } } := by
  obtain ⟨name, hname, h⟩ := bind_eq_ok.1 h
  obtain ⟨p, col, hs, hcol, rfl⟩ := resolveOrdering_eq_ok_iff.1 hname
  exact ⟨⟨col.name, ascending⟩, ⟨p, col, hs, hcol, rfl⟩, (Except.ok.inj h).symm⟩

theorem apply_order_eq_error {s : Expr} {ascending : Bool} {e : Error}
    (h : (BuilderCall.order s ascending).apply q = .error e) :
    resolveOrdering q.mapping s = .error e := by
  rcases bind_eq_error.1 h with h | ⟨name, -, h⟩
  · exact h
  · cases h

theorem apply_of_not_order (q : TableQuery) (c : BuilderCall) (hc : c.orderingOf? = none) :
    ∃ q', c.apply q = .ok q' ∧ q'.mapping = q.mapping ∧ q'.state.orderings = q.state.orderings := by
  cases c with
  | order s ascending => cases hc
  | nextTake =>
    refine ⟨_, rfl, ?_⟩
    unfold TableQuery.nextTake
    split <;> exact ⟨rfl, rfl⟩
  | filter | take | skip | deferred => exact ⟨_, rfl, rfl, rfl⟩

theorem apply_frame {c : BuilderCall} (h : c.apply q = .ok q') :
    (q'.recordType, q'.mapping, q'.state.join) = (q.recordType, q.mapping, q.state.join) := by
  cases c with
  | order s ascending =>
    obtain ⟨o, -, rfl⟩ := apply_order_eq_ok h
    rfl
  | nextTake =>
    cases h
    unfold TableQuery.nextTake
    split <;> rfl
  | filter | take | skip | deferred => cases h; rfl

/-- A call moves the predicate as `predicateStep` says. -/
theorem apply_predicate {c : BuilderCall} (h : c.apply q = .ok q') :
    q'.state.predicate = predicateStep q.state.predicate c := by
  cases c with
  | filter p =>
    cases h
    cases hp : q.state.predicate <;> simp [TableQuery.filter, predicateStep, filterOf?, hp]
  | order s ascending =>
    obtain ⟨o, -, rfl⟩ := apply_order_eq_ok h
    rfl
  | nextTake =>
    cases h
    unfold TableQuery.nextTake
    split <;> rfl
  | take | skip | deferred => cases h; rfl

/-- A call moves limit and offset as `paging` says. -/
theorem apply_paging {c : BuilderCall} (h : c.apply q = .ok q') :
    (q'.state.limit, q'.state.offset) = paging (q.state.limit, q.state.offset) c := by
  cases c with
  | order s ascending =>
    obtain ⟨o, -, rfl⟩ := apply_order_eq_ok h
    rfl
  | nextTake =>
    cases h
    unfold TableQuery.nextTake
    split
    · rename_i l hl
      cases q.state.offset <;> simp [paging, hl, satAdd]
    · rename_i hl
      simp [paging, hl]
  | filter | take | skip | deferred => cases h; rfl

end BuilderCall

/-! ## A run of calls -/

theorem foldlM_observe {α β γ ε : Type} (observe : α → γ) (g : γ → β → γ)
    (f : α → β → Except ε α) (effect : ∀ s x next, f s x = .ok next → observe next = g (observe s) x) :
    ∀ (xs : List β) (start last : α), xs.foldlM f start = .ok last →
      observe last = xs.foldl g (observe start)
  | [], start, last, h => by
    cases h
    rfl
  | x :: xs, start, last, h => by
    rw [List.foldlM_cons] at h
    obtain ⟨next, hnext, hrest⟩ := bind_eq_ok.1 h
    rw [List.foldl_cons, ← effect start x next hnext]
    exact foldlM_observe observe g f effect xs next last hrest

/-! ## The state in closed form -/

theorem foldl_predicateStep_some (e : Expr) (calls : List BuilderCall) :
    calls.foldl predicateStep (some e) =
      some ((calls.filterMap BuilderCall.filterOf?).foldl (.binary .and) e) := by
  induction calls generalizing e with
  | nil => rfl
  | cons c calls ih =>
    cases hc : c.filterOf? <;> simp [predicateStep, hc, ih]

theorem foldl_predicateStep_none (calls : List BuilderCall) :
    calls.foldl predicateStep none = conjoin (calls.filterMap BuilderCall.filterOf?) := by
  induction calls with
  | nil => rfl
  | cons c calls ih =>
    cases hc : c.filterOf? <;> simp [predicateStep, hc, ih, foldl_predicateStep_some, conjoin]

/-- The limit is the last `take`, if any. -/
theorem foldl_paging_limit (calls : List BuilderCall) (lo : Option Nat × Option Nat) :
    (calls.foldl paging lo).1 = ((calls.filterMap BuilderCall.takeOf?).getLast?).or lo.1 := by
  induction calls generalizing lo with
  | nil => simp
  | cons c calls ih =>
    obtain ⟨l, o⟩ := lo
    rw [List.foldl_cons, ih]
    cases c with
    | take n =>
      cases h : (calls.filterMap BuilderCall.takeOf?).getLast? <;>
        simp [paging, BuilderCall.takeOf?, List.getLast?_cons, h]
    | nextTake => cases l <;> simp [paging, BuilderCall.takeOf?]
    | filter | order | skip | deferred => simp [paging, BuilderCall.takeOf?]

theorem foldl_paging_nextTakes {l : Nat} (hl : l ≤ maxCount) (o : Option Nat) (k : Nat) :
    (List.replicate (k + 1) BuilderCall.nextTake).foldl paging (some l, o) =
      (some l, some (min (o.getD 0 + (k + 1) * l) maxCount)) := by
  induction k generalizing o with
  | zero => cases o <;> simp [paging, satAdd]; omega
  | succ k ih =>
    rw [List.replicate_succ, List.foldl_cons]
    simp only [paging]
    rw [ih]
    cases o <;> simp [satAdd, Nat.add_mul] <;> omega

theorem whereClause_eq_error_iff {m : Mapping} {pred : Option Expr} {e : Error} :
    whereClause m pred = .error e ↔ ∃ p, pred = some p ∧ compile m p [] = .error e := by
  cases pred with
  | none => simp [whereClause]
  | some p =>
    cases hc : compile m p [] <;> simp [whereClause, hc, Except.map]

namespace TableQuery

variable {q q' : TableQuery}

theorem runCalls_cons (c : BuilderCall) (calls : List BuilderCall) :
    q.runCalls (c :: calls) = c.apply q >>= fun q₁ => q₁.runCalls calls := by
  simp only [runCalls, List.foldlM_cons]

/-- A run succeeds exactly when every ordering's selector sorts by a mapped property. -/
theorem runCalls_ok_iff (calls : List BuilderCall) :
    (∃ q', q.runCalls calls = .ok q') ↔
      ∀ call ∈ calls.filterMap BuilderCall.orderingOf?, ∃ o, OrdersBy q.mapping call o := by
  induction calls generalizing q with
  | nil => exact ⟨fun _ => by simp, fun _ => ⟨q, rfl⟩⟩
  | cons c calls ih =>
    rw [runCalls_cons]
    cases hc : c.orderingOf? with
    | none =>
      obtain ⟨q₁, h₁, hm, -⟩ := BuilderCall.apply_of_not_order q c hc
      rw [h₁, List.filterMap_cons, hc, ← hm]
      exact ih
    | some call =>
      cases c with
      | order s ascending =>
        rw [List.filterMap_cons, BuilderCall.orderingOf?, List.forall_mem_cons]
        cases ha : (BuilderCall.order s ascending).apply q with
        | error e =>
          have hr := BuilderCall.apply_order_eq_error ha
          constructor
          · rintro ⟨q', h⟩
            cases h
          · rintro ⟨⟨o, p, col, hs, hcol, -⟩, -⟩
            have := resolveOrdering_eq_ok_iff.2 ⟨p, col, hs, hcol, rfl⟩
            rw [hr] at this
            cases this
        | ok q₁ =>
          obtain ⟨o, ho, rfl⟩ := BuilderCall.apply_order_eq_ok ha
          exact ih.trans ⟨fun h => ⟨⟨o, ho⟩, h⟩, fun h => h.2⟩
      | _ => cases hc

theorem runCalls_error {e : Error} (calls : List BuilderCall) (h : q.runCalls calls = .error e) :
    ∃ msg, e = .unsupportedExpression msg := by
  induction calls generalizing q with
  | nil => cases h
  | cons c calls ih =>
    rw [runCalls_cons] at h
    rcases bind_eq_error.1 h with hc | ⟨q₁, -, hrest⟩
    · cases c with
      | order s ascending => exact resolveOrdering_error (BuilderCall.apply_order_eq_error hc)
      | filter | take | skip | nextTake | deferred => cases hc
    · exact ih hrest

theorem runCalls_frame {calls : List BuilderCall} (h : q.runCalls calls = .ok q') :
    (q'.recordType, q'.mapping, q'.state.join) = (q.recordType, q.mapping, q.state.join) := by
  have := foldlM_observe (fun q : TableQuery => (q.recordType, q.mapping, q.state.join))
    (fun x _ => x) BuilderCall.apply (fun _ _ _ h => BuilderCall.apply_frame h) calls q q' h
  rwa [List.foldl_fixed] at this

theorem runCalls_predicate {calls : List BuilderCall} (h : q.runCalls calls = .ok q') :
    q'.state.predicate = calls.foldl predicateStep q.state.predicate :=
  foldlM_observe (fun q : TableQuery => q.state.predicate) predicateStep BuilderCall.apply
    (fun _ _ _ h => BuilderCall.apply_predicate h) calls q q' h

theorem runCalls_paging {calls : List BuilderCall} (h : q.runCalls calls = .ok q') :
    (q'.state.limit, q'.state.offset) = calls.foldl paging (q.state.limit, q.state.offset) :=
  foldlM_observe (fun q : TableQuery => (q.state.limit, q.state.offset)) paging BuilderCall.apply
    (fun _ _ _ h => BuilderCall.apply_paging h) calls q q' h

/-- The orderings of a run: those before it, then one for each ordering call, in call order. -/
theorem runCalls_orderings {calls : List BuilderCall} (h : q.runCalls calls = .ok q') :
    ∃ os, List.Forall₂ (OrdersBy q.mapping) (calls.filterMap BuilderCall.orderingOf?) os ∧
      q'.state.orderings =
        if os = [] then q.state.orderings else some (q.state.orderings.getD [] ++ os) := by
  induction calls generalizing q with
  | nil =>
    cases h
    exact ⟨[], .nil, rfl⟩
  | cons c calls ih =>
    rw [runCalls_cons] at h
    obtain ⟨q₁, h₁, hrest⟩ := bind_eq_ok.1 h
    obtain ⟨os, hos, hq'⟩ := ih hrest
    cases hc : c.orderingOf? with
    | none =>
      obtain ⟨q₂, h₂, hm, ho⟩ := BuilderCall.apply_of_not_order q c hc
      rw [h₁] at h₂
      cases h₂
      rw [hm] at hos
      rw [ho] at hq'
      rw [List.filterMap_cons, hc]
      exact ⟨os, hos, hq'⟩
    | some call =>
      cases c with
      | order s ascending =>
        obtain ⟨o, ho, rfl⟩ := BuilderCall.apply_order_eq_ok h₁
        refine ⟨o :: os, ?_, ?_⟩
        · rw [List.filterMap_cons, BuilderCall.orderingOf?]
          exact .cons ho hos
        · rw [hq']
          by_cases hnil : os = [] <;> simp [hnil]
      | _ => cases hc

/-! ## The statement -/

/-- The statement of a query: a join is refused, and otherwise the select list and quoted table,
the where clause, the orderings and the paging, binding the where clause's values in order. -/
theorem generate_eq (L : String) :
    q.generate L = if q.state.join.isSome then .error (.unsupportedExpression "joins are not supported")
      else (whereClause q.mapping q.state.predicate).map fun (clause, args) =>
        ⟨"select " ++ L ++ " from " ++ quoteIdentifier q.mapping.tableName ++ clause ++
          orderByClause q.state.orderings ++ limitClause q.state.limit q.state.offset,
          args.map fun h => ⟨none, h, 0⟩⟩ := by
  unfold generate
  cases hj : q.state.join with
  | some j => rfl
  | none =>
    cases hp : q.state.predicate with
    | none => simp [whereClause, Except.map, pure, Except.pure, bind, Except.bind]
    | some p =>
      cases hc : compile q.mapping p [] <;>
        simp [whereClause, hc, foldl_bindHost, Except.map, String.append_assoc]

theorem generate_eq_error_iff {L : String} {e : Error} :
    q.generate L = .error e ↔
      (q.state.join.isSome ∧ e = .unsupportedExpression "joins are not supported") ∨
      (q.state.join = none ∧ ∃ p, q.state.predicate = some p ∧ compile q.mapping p [] = .error e) := by
  rw [generate_eq]
  cases hj : q.state.join with
  | some j => simp [eq_comm]
  | none =>
    rw [← whereClause_eq_error_iff]
    cases whereClause q.mapping q.state.predicate <;> simp [Except.map]

theorem generate_eq_ok_iff {L : String} {cmd : Command} :
    q.generate L = .ok cmd ↔ q.state.join = none ∧
      ∃ clause args, whereClause q.mapping q.state.predicate = .ok (clause, args) ∧
        cmd = ⟨"select " ++ L ++ " from " ++ quoteIdentifier q.mapping.tableName ++ clause ++
          orderByClause q.state.orderings ++ limitClause q.state.limit q.state.offset,
          args.map fun h => ⟨none, h, 0⟩⟩ := by
  rw [generate_eq]
  cases hj : q.state.join with
  | some j => simp
  | none =>
    cases whereClause q.mapping q.state.predicate with
    | error e => simp [Except.map]
    | ok r =>
      obtain ⟨clause, args⟩ := r
      simp [Except.map, eq_comm]

end TableQuery

/-- Building a query from the one over every record of a type, which is what `Db.table` gives,
with any calls in any order. The calls succeed exactly when every ordering's selector sorts by a
mapped property, and otherwise fail with an unsupported-expression error. After a successful
run the predicate is the left-nested `and` of the filters in call order; the orderings are one
per ordering call, in call order, each the storage name of its property with its direction; the
limit is the last `take`, and limit and offset are the fold of `paging` over the calls. The
statement of any query fails exactly when a join is recorded or the predicate does not compile,
and is otherwise `select`, the select list, `from` and the quoted table, then the where clause,
the order by clause and the limit clause, binding the where clause's values in order; a built
query records no join. `k ≥ 1` calls of `nextTake` right after `take l`, for a count `l`, leave
the offset at `min (o + k · l) maxCount`, where `o` is the offset before, zero for none. -/
theorem builder_state_and_text (rt : RecordType) (m : Mapping) (calls : List BuilderCall) :
    ((∃ q, TableQuery.runCalls ⟨rt, m, {}⟩ calls = .ok q) ↔
        ∀ call ∈ calls.filterMap BuilderCall.orderingOf?, ∃ o, OrdersBy m call o) ∧
    (∀ e, TableQuery.runCalls ⟨rt, m, {}⟩ calls = .error e → ∃ msg, e = .unsupportedExpression msg) ∧
    (∀ q, TableQuery.runCalls ⟨rt, m, {}⟩ calls = .ok q →
      q.recordType = rt ∧ q.mapping = m ∧ q.state.join = none ∧
      q.state.predicate = conjoin (calls.filterMap BuilderCall.filterOf?) ∧
      (∃ os, List.Forall₂ (OrdersBy m) (calls.filterMap BuilderCall.orderingOf?) os ∧
        q.state.orderings = if os = [] then none else some os) ∧
      q.state.limit = (calls.filterMap BuilderCall.takeOf?).getLast? ∧
      (q.state.limit, q.state.offset) = calls.foldl paging (none, none)) ∧
    (∀ (q : TableQuery) (L : String) (e : Error), q.generate L = .error e ↔
      (q.state.join.isSome ∧ e = .unsupportedExpression "joins are not supported") ∨
      (q.state.join = none ∧ ∃ p, q.state.predicate = some p ∧ compile q.mapping p [] = .error e)) ∧
    (∀ (q : TableQuery) (L : String) (cmd : Command), q.generate L = .ok cmd ↔
      q.state.join = none ∧ ∃ clause args, whereClause q.mapping q.state.predicate = .ok (clause, args) ∧
        cmd = ⟨"select " ++ L ++ " from " ++ quoteIdentifier q.mapping.tableName ++ clause ++
          TableQuery.orderByClause q.state.orderings ++
          TableQuery.limitClause q.state.limit q.state.offset,
          args.map fun h => ⟨none, h, 0⟩⟩) ∧
    ∀ (q : TableQuery) (l k : Nat), l ≤ maxCount → 0 < k →
      ∃ q', q.runCalls (.take l :: List.replicate k .nextTake) = .ok q' ∧
        q'.state.limit = some l ∧
        q'.state.offset = some (min (q.state.offset.getD 0 + k * l) maxCount) := by
  refine ⟨TableQuery.runCalls_ok_iff calls, fun e h => TableQuery.runCalls_error calls h,
    fun q h => ?_, fun q L e => TableQuery.generate_eq_error_iff,
    fun q L cmd => TableQuery.generate_eq_ok_iff, fun q l k hl hk => ?_⟩
  · have hframe := TableQuery.runCalls_frame h
    simp only [Prod.mk.injEq] at hframe
    obtain ⟨rfl, rfl, hjoin⟩ := hframe
    obtain ⟨os, hos, hords⟩ := TableQuery.runCalls_orderings h
    have hpaging := TableQuery.runCalls_paging h
    refine ⟨rfl, rfl, hjoin, ?_, ⟨os, hos, by simpa using hords⟩, ?_, hpaging⟩
    · rw [TableQuery.runCalls_predicate h, foldl_predicateStep_none]
    · have hlimit := congrArg Prod.fst hpaging
      simp only at hlimit
      rw [hlimit, foldl_paging_limit]
      simp
  · obtain ⟨k, rfl⟩ : ∃ j, k = j + 1 := ⟨k - 1, by omega⟩
    obtain ⟨q', hq'⟩ := (TableQuery.runCalls_ok_iff (.take l :: List.replicate (k + 1) .nextTake)).2
      (by simp [BuilderCall.orderingOf?])
    have hpaging := TableQuery.runCalls_paging hq'
    rw [List.foldl_cons] at hpaging
    simp only [paging] at hpaging
    rw [foldl_paging_nextTakes hl, Prod.mk.injEq] at hpaging
    exact ⟨q', hq', hpaging.1, hpaging.2⟩

end RecordMap
