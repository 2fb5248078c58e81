import RecordMap.Proofs.Database.TableCreation

/-!
# Where bound values land

Preparing a command numbers its bindings in call order: a named binding goes to the number the
engine gave its name, and the positional ones to 1, 2, 3, … counting only positional bindings,
whatever named ones stand between them. The engine numbers a statement's parameters left to
right, named or not, so the `k`-th positional value lands on the `k`-th `?` exactly when no
named parameter comes before that `?`.
-/

namespace RecordMap

open RecordMap.Sql (Datum Prepared)

namespace Db

/-! ## The binding loop as a fold -/

/-- The number a binding goes to: a name's number in the statement, or the next position. -/
def paramNumber (p : Prepared) (name : Option String) (next : Nat) : Outcome Nat :=
  match name with
  | some n =>
    match p.params.findIdx? (· == some n) with
    | some k => .ok (k + 1)
    | none => .error (.execution 25 ("no parameter named " ++ n))
  | none => .ok next

theorem bindingIndex_eq (p : Prepared) (name : Option String) (next : Nat) :
    bindingIndex p name next = ofOutcome (paramNumber p name next) := by
  cases name with
  | none => rfl
  | some n =>
    cases hk : p.params.findIdx? (· == some n) with
    | none => simp only [bindingIndex, paramNumber, hk]; rfl
    | some k => simp only [bindingIndex, paramNumber, hk]; rfl

/-- What the engine stores for a bound value. -/
def datumOf (ticks : Bool) : Host → Outcome Datum
  | .scalar v => (bindValue ticks v).mapError .unsupportedType
  | other => .error (.unsupportedType (.cannotBind other.kind))

theorem bindingDatum_eq (ticks : Bool) (h : Host) :
    bindingDatum ticks h = ofOutcome (datumOf ticks h) := by
  cases h with
  | scalar v =>
    show ofTyped (bindValue ticks v) = ofOutcome ((bindValue ticks v).mapError .unsupportedType)
    cases bindValue ticks v with
    | ok d => rfl
    | error f => rfl
  | list items => rfl
  | object id typeName members => rfl

theorem ofOutcome_ok {α : Type} (a : α) : ofOutcome (.ok a) = (pure a : Db α) := rfl

theorem outcome_ok_bind {α β : Type} (a : α) (f : α → Outcome β) : (Except.ok a >>= f) = f a := rfl

/-- One binding bound: its number, then its value, then a check that the number is one of the
statement's parameters; the next position moves on after a positional binding. -/
def bindStep (p : Prepared) (ticks : Bool) (st : Nat × Array Datum × List Binding)
    (b : Binding) : Outcome (Nat × Array Datum × List Binding) := do
  let index ← paramNumber p b.name st.1
  let d ← datumOf ticks b.value
  if index == 0 || index > p.params.length then throw (.execution 25 "column index out of range")
  pure (if b.name.isNone then st.1 + 1 else st.1, st.2.1.setIfInBounds (index - 1) d,
    st.2.2 ++ [{ b with index }])

/-- A loop whose every step either goes on or fails, leaving the world alone, is the fold of
those steps. -/
theorem forIn_eq_ofOutcome {α σ : Type} (l : List α) {f : α → σ → Db (ForInStep σ)}
    {g : σ → α → Outcome σ} (hf : ∀ a s, f a s = ofOutcome ((g s a).map .yield)) (s : σ) :
    forIn l s f = ofOutcome (l.foldlM g s) := by
  induction l generalizing s with
  | nil => rfl
  | cons a l ih =>
    rw [List.forIn_cons, hf, List.foldlM_cons]
    cases g s a with
    | error e => rfl
    | ok s' =>
      show forIn l s' f = _
      rw [ih]
      rfl

/-- Preparing a command on an open connection whose engine takes the text leaves the world alone;
its outcome is the fold of the binding steps from position 1 with every parameter null. -/
theorem prepare_eq {c : Nat} {cmd : Command} {w : World} {h : Nat} {p : Prepared}
    (hh : handle c w = .ok h w) (hp : w.engine.prepare h cmd.text = .ok p) :
    prepare c cmd w = ofOutcome ((cmd.bindings.foldlM (bindStep p (w.connections.getD c default).ticks)
      (1, Array.replicate p.params.length .null, [])).map
        fun st => (⟨p, st.2.1, { cmd with bindings := st.2.2 }⟩ : Bound)) w := by
  unfold prepare
  rw [bind_of_eq_ok _ hh, bind_of_eq_ok _ (connection_apply c w),
    bind_of_eq_ok _ (show (MonadState.get : Db World) w = .ok w w from rfl)]
  dsimp only
  rw [hp]
  dsimp only
  rw [pure_bind, forIn_eq_ofOutcome _ (g := bindStep p (w.connections.getD c default).ticks) ?step]
  · cases List.foldlM (bindStep p (w.connections.getD c default).ticks)
      (1, Array.replicate p.params.length .null, []) cmd.bindings with
    | ok st => rfl
    | error e => rfl
  · -- each pass of the loop is one binding step
    intro b st
    rw [bindingIndex_eq, bindingDatum_eq]
    unfold bindStep
    cases paramNumber p b.name st.1 with
    | error e => rfl
    | ok index =>
      cases datumOf (w.connections.getD c default).ticks b.value with
      | error e => cases b.name.isNone <;> rfl
      | ok d =>
        simp only [ofOutcome_ok, pure_bind, outcome_ok_bind]
        by_cases hc : (index == 0 || decide (index > p.params.length)) = true <;>
          cases b.name.isNone <;> simp only [hc, Bool.false_eq_true, ↓reduceIte] <;> rfl

/-! ## The numbers bindings go to -/

/-- The numbers bindings go to, positions counted from `next`: a named binding the number the
engine gave its name, each positional binding the next position, named ones not counted. -/
def numbersFrom (params : List (Option String)) : Nat → List Binding → List Nat
  | _, [] => []
  | next, b :: rest =>
    match b.name with
    | some n => (params.idxOf (some n) + 1) :: numbersFrom params next rest
    | none => next :: numbersFrom params (next + 1) rest

/-- The positional bindings of a list. -/
def positional (bs : List Binding) : List Binding := bs.filter (·.name.isNone)

@[simp] theorem positional_nil : positional [] = [] := rfl

theorem positional_cons_named {b : Binding} {n : String} (h : b.name = some n) (bs : List Binding) :
    positional (b :: bs) = positional bs := by
  simp [positional, h]

theorem positional_cons_none {b : Binding} (h : b.name = none) (bs : List Binding) :
    positional (b :: bs) = b :: positional bs := by
  simp [positional, h]

theorem paramNumber_named {p : Prepared} {n : String} (hn : some n ∈ p.params) (next : Nat) :
    paramNumber p (some n) next = .ok (p.params.idxOf (some n) + 1) := by
  have h := List.findIdx?_eq_some_of_exists (p := (· == some n)) ⟨some n, hn, by simp⟩
  simp only [paramNumber, h]
  rfl

theorem idxOf_lt_of_mem {params : List (Option String)} {n : String} (hn : some n ∈ params) :
    params.idxOf (some n) < params.length := List.idxOf_lt_length_of_mem hn

theorem positional_numbersFrom (params : List (Option String)) (bs : List Binding) (next : Nat) :
    ((bs.zip (numbersFrom params next bs)).filter (·.1.name.isNone)).map (·.2) =
      List.range' next (positional bs).length := by
  induction bs generalizing next with
  | nil => rfl
  | cons b bs ih =>
    cases hname : b.name with
    | some n => simp [numbersFrom, hname, positional_cons_named hname, ih]
    | none =>
      simp [numbersFrom, hname, positional_cons_none hname, ih, List.range'_succ]

theorem positional_number_bounds {params : List (Option String)} {bs : List Binding} {next : Nat}
    {x : Binding × Nat} (hx : x ∈ bs.zip (numbersFrom params next bs)) (hn : x.1.name = none) :
    next ≤ x.2 ∧ x.2 < next + (positional bs).length := by
  have hmem : x.2 ∈ ((bs.zip (numbersFrom params next bs)).filter (·.1.name.isNone)).map (·.2) :=
    List.mem_map_of_mem (List.mem_filter.2 ⟨hx, by simp [hn]⟩)
  rw [positional_numbersFrom, List.mem_range'_1] at hmem
  exact hmem

/-- A named binding goes to the number the engine gave its name. -/
theorem named_numbersFrom {params : List (Option String)} {bs : List Binding} {next : Nat}
    {x : Binding × Nat} (hx : x ∈ bs.zip (numbersFrom params next bs)) {n : String}
    (hn : x.1.name = some n) : x.2 = params.idxOf (some n) + 1 := by
  induction bs generalizing next with
  | nil => simp [numbersFrom] at hx
  | cons b bs ih =>
    cases hname : b.name with
    | some n' =>
      simp only [numbersFrom, hname, List.zip_cons_cons, List.mem_cons] at hx
      rcases hx with rfl | hx
      · rw [hname, Option.some.injEq] at hn
        rw [hn]
      · exact ih hx
    | none =>
      simp only [numbersFrom, hname, List.zip_cons_cons, List.mem_cons] at hx
      rcases hx with rfl | hx
      · rw [hname] at hn
        cases hn
      · exact ih hx

/-- Each number is a position from `next` on, or the number of a name some binding names. -/
theorem mem_numbersFrom {params : List (Option String)} {bs : List Binding} {next i : Nat}
    (hi : i ∈ numbersFrom params next bs) :
    (next ≤ i ∧ i < next + (positional bs).length) ∨
      ∃ n, some n ∈ bs.map (·.name) ∧ i = params.idxOf (some n) + 1 := by
  induction bs generalizing next with
  | nil => simp [numbersFrom] at hi
  | cons b bs ih =>
    cases hname : b.name with
    | some n =>
      simp only [numbersFrom, hname, List.mem_cons] at hi
      rw [positional_cons_named hname]
      rcases hi with rfl | hi
      · exact .inr ⟨n, by simp [hname], rfl⟩
      · rcases ih hi with hpos | ⟨n', hn', rfl⟩
        · exact .inl hpos
        · exact .inr ⟨n', List.mem_cons_of_mem _ hn', rfl⟩
    | none =>
      simp only [numbersFrom, hname, List.mem_cons] at hi
      rw [positional_cons_none hname, List.length_cons]
      rcases hi with rfl | hi
      · exact .inl ⟨Nat.le_refl _, by omega⟩
      · rcases ih hi with hpos | ⟨n', hn', rfl⟩
        · exact .inl ⟨by omega, by omega⟩
        · exact .inr ⟨n', List.mem_cons_of_mem _ hn', rfl⟩

/-! ## Statements whose `?`s come first -/

section QuestionsFirst

variable {m : Nat} {names : List String}

theorem le_idxOf_of_questionsFirst (n : String) :
    m ≤ (List.replicate m none ++ names.map some).idxOf (some n) := by
  have hnot : some n ∉ List.replicate m (none : Option String) := by simp
  rw [List.idxOf_append, if_neg hnot, List.length_replicate]
  omega

theorem eq_of_idxOf_eq {params : List (Option String)} {a a' : Option String} (ha : a ∈ params)
    (ha' : a' ∈ params) (h : params.idxOf a = params.idxOf a') : a = a' := by
  have hget := List.getElem_idxOf (List.idxOf_lt_length_of_mem ha)
  have hget' := List.getElem_idxOf (List.idxOf_lt_length_of_mem ha')
  simp only [h] at hget
  exact hget.symm.trans hget'

/-- With the `?`s first, at most one positional binding per `?` and no name bound twice, no two
bindings go to one number. -/
theorem nodup_numbersFrom {bs : List Binding} {next : Nat}
    (hpos : next + (positional bs).length ≤ m + 1)
    (hnames : ∀ b ∈ bs, ∀ n, b.name = some n → some n ∈ List.replicate m none ++ names.map some)
    (hnamed : (bs.filterMap (·.name)).Nodup) :
    (numbersFrom (List.replicate m none ++ names.map some) next bs).Nodup := by
  induction bs generalizing next with
  | nil => exact List.nodup_nil
  | cons b bs ih =>
    have hnames' : ∀ b ∈ bs, ∀ n, b.name = some n →
        some n ∈ List.replicate m none ++ names.map some :=
      fun b' hb' => hnames b' (List.mem_cons_of_mem _ hb')
    cases hname : b.name with
    | some n =>
      rw [List.filterMap_cons, hname, List.nodup_cons] at hnamed
      rw [positional_cons_named hname] at hpos
      simp only [numbersFrom, hname, List.nodup_cons]
      refine ⟨fun hmem => ?_, ih hpos hnames' hnamed.2⟩
      -- a name's number is past every position, and differs from the other names' numbers
      rcases mem_numbersFrom hmem with ⟨-, hlt⟩ | ⟨n', hn', heq⟩
      · have := @le_idxOf_of_questionsFirst m names n
        omega
      · have hn'bs : n' ∈ bs.filterMap (·.name) := by
          obtain ⟨b', hb', hb'n⟩ := List.mem_map.1 hn'
          exact List.mem_filterMap.2 ⟨b', hb', hb'n⟩
        obtain ⟨b', hb', hb'n⟩ := List.mem_map.1 hn'
        have hsame := eq_of_idxOf_eq (hnames b List.mem_cons_self n hname)
          (hnames' b' hb' n' hb'n) (by omega)
        rw [Option.some.injEq] at hsame
        exact hnamed.1 (hsame ▸ hn'bs)
    | none =>
      rw [List.filterMap_cons, hname] at hnamed
      rw [positional_cons_none hname, List.length_cons] at hpos
      simp only [numbersFrom, hname, List.nodup_cons]
      refine ⟨fun hmem => ?_, ih (by omega) hnames' hnamed⟩
      -- the later positions are past this one, and the names' numbers past every position
      rcases mem_numbersFrom hmem with ⟨hle, -⟩ | ⟨n', -, heq⟩
      · omega
      · have := @le_idxOf_of_questionsFirst m names n'
        omega

end QuestionsFirst

/-! ## Setting values at their numbers -/

theorem getElem?_foldl_setIfInBounds_of_forall_ne (xs : List (Nat × Datum)) (values : Array Datum)
    {i : Nat} (hi : ∀ x ∈ xs, x.1 - 1 ≠ i) :
    (xs.foldl (fun vs x => vs.setIfInBounds (x.1 - 1) x.2) values)[i]? = values[i]? := by
  induction xs generalizing values with
  | nil => rfl
  | cons x xs ih =>
    rw [List.foldl_cons, ih _ fun y hy => hi y (List.mem_cons_of_mem _ hy),
      Array.getElem?_setIfInBounds_ne (hi x List.mem_cons_self)]

theorem getElem?_foldl_setIfInBounds (xs : List (Nat × Datum)) (values : Array Datum)
    (hnodup : (xs.map (·.1)).Nodup) (hrange : ∀ x ∈ xs, 0 < x.1 ∧ x.1 ≤ values.size) :
    ∀ x ∈ xs, (xs.foldl (fun vs x => vs.setIfInBounds (x.1 - 1) x.2) values)[x.1 - 1]? =
      some x.2 := by
  induction xs generalizing values with
  | nil => simp
  | cons y xs ih =>
    rw [List.map_cons, List.nodup_cons] at hnodup
    intro x hx
    rw [List.foldl_cons]
    rcases List.mem_cons.1 hx with rfl | hx
    · -- the first value set: no later one sets its place
      have hy := hrange x List.mem_cons_self
      rw [getElem?_foldl_setIfInBounds_of_forall_ne xs _ fun z hz => ?_]
      · exact Array.getElem?_setIfInBounds_self_of_lt (by omega)
      · have hz' := hrange z (List.mem_cons_of_mem _ hz)
        have hne : z.1 ≠ x.1 := fun h => hnodup.1 (h ▸ List.mem_map_of_mem hz)
        omega
    · exact ih _ hnodup.2 (fun z hz => by
        rw [Array.size_setIfInBounds]
        exact hrange z (List.mem_cons_of_mem _ hz)) x hx

/-- When every named binding names a parameter, every value binds and the positions from `next`
stay among the parameters, binding goes through, and its outcome is read off the numbers: the
position moves past the positional bindings, each value is set at its number in order, and each
binding is kept with its number. -/
theorem foldlM_bindStep_eq {p : Prepared} {ticks : Bool} {bs : List Binding} {ds : List Datum}
    (hnames : ∀ b ∈ bs, ∀ n, b.name = some n → some n ∈ p.params)
    (hds : bs.mapM (fun b => datumOf ticks b.value) = .ok ds)
    {next : Nat} (hnext : 0 < next) (hcount : next + (positional bs).length ≤ p.params.length + 1)
    (values : Array Datum) (bound : List Binding) :
    bs.foldlM (bindStep p ticks) (next, values, bound) =
      .ok (next + (positional bs).length,
        ((numbersFrom p.params next bs).zip ds).foldl (fun vs x => vs.setIfInBounds (x.1 - 1) x.2)
          values,
        bound ++ List.zipWith (fun b i => { b with index := i }) bs (numbersFrom p.params next bs)) := by
  induction bs generalizing next values bound ds with
  | nil =>
    cases hds
    simp [numbersFrom, pure, Except.pure]
  | cons b bs ih =>
    -- the head's value binds, and so do the rest
    rw [List.mapM_cons] at hds
    cases hd : datumOf ticks b.value with
    | error e =>
      rw [hd] at hds
      cases hds
    | ok d =>
      cases hrest : bs.mapM (fun b => datumOf ticks b.value) with
      | error e =>
        rw [hd, hrest] at hds
        cases hds
      | ok ds' =>
        rw [hd, hrest] at hds
        cases hds
        have hnames' : ∀ b ∈ bs, ∀ n, b.name = some n → some n ∈ p.params :=
          fun b' hb' => hnames b' (List.mem_cons_of_mem _ hb')
        rw [List.foldlM_cons]
        cases hname : b.name with
        | some n =>
          -- a named binding: its name's number, the position unchanged
          have hn := hnames b List.mem_cons_self n hname
          have hlt := idxOf_lt_of_mem hn
          rw [positional_cons_named hname] at hcount ⊢
          have hstep : bindStep p ticks (next, values, bound) b =
              .ok (next, values.setIfInBounds (p.params.idxOf (some n)) d,
                bound ++ [{ b with index := p.params.idxOf (some n) + 1 }]) := by
            simp only [bindStep, hname, paramNumber_named hn, hd, outcome_ok_bind]
            have hcheck : (p.params.idxOf (some n) + 1 == 0 ||
                decide (p.params.idxOf (some n) + 1 > p.params.length)) = false := by
              simp only [Bool.or_eq_false_iff, beq_eq_false_iff_ne, decide_eq_false_iff_not]
              omega
            simp only [hcheck, Bool.false_eq_true, ↓reduceIte, Option.isNone_some,
              Nat.add_sub_cancel]
            rfl
          rw [hstep, outcome_ok_bind, ih hnames' hrest hnext hcount]
          simp [numbersFrom, hname]
        | none =>
          -- a positional binding: the next position, which moves on
          rw [positional_cons_none hname] at hcount ⊢
          simp only [List.length_cons] at hcount
          have hstep : bindStep p ticks (next, values, bound) b =
              .ok (next + 1, values.setIfInBounds (next - 1) d, bound ++ [{ b with index := next }]) := by
            simp only [bindStep, hname, paramNumber, hd, outcome_ok_bind]
            have hcheck : (next == 0 || decide (next > p.params.length)) = false := by
              simp only [Bool.or_eq_false_iff, beq_eq_false_iff_ne, decide_eq_false_iff_not]
              omega
            simp only [hcheck, Bool.false_eq_true, ↓reduceIte, Option.isNone_none]
            rfl
          rw [hstep, outcome_ok_bind, ih hnames' hrest (by omega) (by omega)]
          simp [numbersFrom, hname, Nat.add_assoc, Nat.add_comm 1]

theorem length_numbersFrom (params : List (Option String)) (next : Nat) (bs : List Binding) :
    (numbersFrom params next bs).length = bs.length := by
  induction bs generalizing next with
  | nil => rfl
  | cons b bs ih => cases hname : b.name <;> simp [numbersFrom, hname, ih]

/-! ## Preparing a command -/

/-- What preparing `cmd` on a statement `p` binds, its bindings storing the values `ds`: the
statement itself; each binding's number (a named binding its name's number, the positional ones
1, 2, … in call order); each value set at its number in call order, a later one replacing an
earlier; so the positional bindings go to 1, 2, … and each named one to its own parameter. -/
structure BindsInCallOrder (p : Prepared) (cmd : Command) (ds : List Datum) (b : Bound) : Prop where
  prepared : b.prepared = p
  numbers : b.command.bindings.map (·.index) = numbersFrom p.params 1 cmd.bindings
  values : b.params = ((numbersFrom p.params 1 cmd.bindings).zip ds).foldl
    (fun vs x => vs.setIfInBounds (x.1 - 1) x.2) (Array.replicate p.params.length .null)
  positional_in_order :
    ((cmd.bindings.zip (numbersFrom p.params 1 cmd.bindings)).filter (·.1.name.isNone)).map (·.2) =
      List.range' 1 (positional cmd.bindings).length
  named_on_own : ∀ x ∈ cmd.bindings.zip (numbersFrom p.params 1 cmd.bindings), ∀ n,
    x.1.name = some n → p.params[x.2 - 1]? = some (some n)

/-- What preparing binds when every `?` comes before the named parameters: each positional
binding lands on a `?`, no number is bound twice, and each parameter holds the value bound to
it. -/
structure BindsEachOnce (p : Prepared) (cmd : Command) (ds : List Datum) (b : Bound) : Prop where
  positional_on_questions : ∀ x ∈ cmd.bindings.zip (numbersFrom p.params 1 cmd.bindings),
    x.1.name = none → p.params[x.2 - 1]? = some none
  nodup : (numbersFrom p.params 1 cmd.bindings).Nodup
  values_kept : ∀ x ∈ (numbersFrom p.params 1 cmd.bindings).zip ds, b.params[x.1 - 1]? = some x.2

/-- Preparing binds by call order, not by the text. On an open connection whose engine takes
the text, with every named binding naming a parameter, no more positional bindings than
parameters and every value binding, preparing succeeds, leaves the world alone, and binds as
`BindsInCallOrder` says: a named binding to its name's number, the `k`-th positional binding to
number `k`, whatever parameter the engine numbered `k`. When every `?` comes before the named
parameters, there are no more positional bindings than `?`s and no name is bound twice, it binds
as `BindsEachOnce` says: the `k`-th positional value on the `k`-th `?`, each named value on its
parameter, and no number bound twice. -/
theorem bindings_follow_call_order {c : Nat} {cmd : Command} {w : World} {h : Nat} {p : Prepared}
    {ds : List Datum} (hh : handle c w = .ok h w) (hp : w.engine.prepare h cmd.text = .ok p)
    (hnames : ∀ b ∈ cmd.bindings, ∀ n, b.name = some n → some n ∈ p.params)
    (hcount : (positional cmd.bindings).length ≤ p.params.length)
    (hds : cmd.bindings.mapM (fun b => datumOf (w.connections.getD c default).ticks b.value) =
      .ok ds) :
    ∃ b, prepare c cmd w = .ok b w ∧ BindsInCallOrder p cmd ds b ∧
      ∀ (m : Nat) (names : List String), p.params = List.replicate m none ++ names.map some →
        (positional cmd.bindings).length ≤ m → (cmd.bindings.filterMap (·.name)).Nodup →
          BindsEachOnce p cmd ds b := by
  have hfold := foldlM_bindStep_eq hnames hds (Nat.zero_lt_one) (by omega)
    (Array.replicate p.params.length .null) []
  rw [prepare_eq hh hp, hfold]
  refine ⟨_, rfl, ⟨rfl, ?numbers, rfl, positional_numbersFrom _ _ _, ?named⟩, ?once⟩
  case numbers =>
    have hlen := Nat.le_of_eq (length_numbersFrom p.params 1 cmd.bindings)
    simp only [List.nil_append, List.map_zipWith]
    exact (List.map_zip_eq_zipWith (f := Prod.snd)).symm.trans (List.map_snd_zip hlen)
  case named =>
    intro x hx n hn
    have hn' := hnames x.1 (List.of_mem_zip hx).1 n hn
    rw [named_numbersFrom hx hn, Nat.add_sub_cancel, List.getElem?_eq_getElem (idxOf_lt_of_mem hn'),
      List.getElem_idxOf]
  case once =>
    intro m names hlayout hpos hnamed
    have hlen : (numbersFrom p.params 1 cmd.bindings).length = ds.length := by
      rw [length_numbersFrom]
      exact (mapM_ok_forall₂ hds).length_eq
    have hfst : ((numbersFrom p.params 1 cmd.bindings).zip ds).map (·.1) =
        numbersFrom p.params 1 cmd.bindings := List.map_fst_zip (Nat.le_of_eq hlen)
    have hnodup : (numbersFrom p.params 1 cmd.bindings).Nodup := by
      rw [hlayout] at hnames ⊢
      exact nodup_numbersFrom (by omega) hnames hnamed
    -- every number is a parameter's: a position below the count, or a name's own number
    have hrange : ∀ y ∈ (numbersFrom p.params 1 cmd.bindings).zip ds,
        0 < y.1 ∧ y.1 ≤ (Array.replicate p.params.length Datum.null).size := by
      intro y hy
      rw [Array.size_replicate]
      rcases mem_numbersFrom (List.of_mem_zip hy).1 with ⟨hlo, hhi⟩ | ⟨n, hn, hy1⟩
      · exact ⟨hlo, by omega⟩
      · obtain ⟨b, hb, hbn⟩ := List.mem_map.1 hn
        have := idxOf_lt_of_mem (hnames b hb n hbn)
        exact ⟨by omega, by omega⟩
    refine ⟨fun x hx hn => ?_, hnodup, fun x hx => ?_⟩
    · obtain ⟨hlo, hhi⟩ := positional_number_bounds hx hn
      rw [hlayout, List.getElem?_append_left (by simp; omega), List.getElem?_replicate,
        if_pos (by omega)]
    · exact getElem?_foldl_setIfInBounds _ _ (by rw [hfst]; exact hnodup) hrange x hx

/-- `:a` bound by name, then a positional value, on a statement whose `?` comes first. -/
def questionFirstCommand : Command :=
  { text := "select ?, :a", bindings := [⟨some ":a", .scalar (.int 1), 0⟩, ⟨none, .scalar (.int 2), 0⟩] }

/-- Whether the engine takes `select ?, :a` on the connection of `memoryWorld` with its `?`
numbered before `:a`. -/
def questionFirstPrepares : Bool :=
  match handle 0 memoryWorld with
  | .ok h _ =>
    match memoryWorld.engine.prepare h questionFirstCommand.text with
    | .ok p => decide (p.params = [none, some ":a"])
    | .error _ => false
  | .error _ _ => false

/-- On `select ?, :a`, binding `:a` and then a positional value binds each parameter once. -/
theorem question_first_binds_each_once :
    ∃ h p b, handle 0 memoryWorld = .ok h memoryWorld ∧
      memoryWorld.engine.prepare h questionFirstCommand.text = .ok p ∧
      p.params = [none, some ":a"] ∧
      prepare 0 questionFirstCommand memoryWorld = .ok b memoryWorld ∧
      BindsInCallOrder p questionFirstCommand [.integer 1, .integer 2] b ∧
      BindsEachOnce p questionFirstCommand [.integer 1, .integer 2] b := by
  have hrun : questionFirstPrepares = true := by decide +kernel
  have hkeep := @Keeps.handle 0 World id memoryWorld
  unfold questionFirstPrepares at hrun
  cases hh : handle 0 memoryWorld with
  | error e w =>
    rw [hh] at hrun
    cases hrun
  | ok h w =>
    rw [hh] at hrun hkeep
    have hw : w = memoryWorld := hkeep
    subst hw
    dsimp only at hrun
    cases hp : memoryWorld.engine.prepare h questionFirstCommand.text with
    | error f =>
      rw [hp] at hrun
      cases hrun
    | ok p =>
      rw [hp] at hrun
      have hparams : p.params = [none, some ":a"] := of_decide_eq_true hrun
      have hnames : ∀ b ∈ questionFirstCommand.bindings, ∀ n, b.name = some n → some n ∈ p.params := by
        intro b hb n hn
        simp only [questionFirstCommand, List.mem_cons, List.not_mem_nil, or_false] at hb
        rcases hb with rfl | rfl
        · cases hn
          rw [hparams]
          decide
        · cases hn
      have hds : questionFirstCommand.bindings.mapM
          (fun b => datumOf (memoryWorld.connections.getD 0 default).ticks b.value) =
            .ok [.integer 1, .integer 2] := rfl
      obtain ⟨b, hb, hcall, honce⟩ := bindings_follow_call_order hh hp hnames
        (by rw [hparams]; decide) hds
      exact ⟨h, p, b, rfl, hp, hparams, hb, hcall, honce 1 [":a"] hparams (by decide) (by decide)⟩

/-! ## A named parameter before a `?` -/

/-- `:a` bound by name, then a positional value, on a statement whose `?` comes after `:a`. -/
def namedFirstCommand : Command :=
  { text := "select :a, ?", bindings := [⟨some ":a", .scalar (.int 1), 0⟩, ⟨none, .scalar (.int 2), 0⟩] }

/-- Whether preparing `namedFirstCommand` binds as `positional_value_replaces_named` says. -/
def namedFirstPrepares : Bool :=
  match prepare 0 namedFirstCommand memoryWorld with
  | .ok b _ => decide (b.prepared.params = [some ":a", none] ∧ b.command.bindings.map (·.index) = [1, 1] ∧
      b.params.toList.map (fun d => (d.isNull, d.intValue)) = [(false, 2), (true, 0)])
  | .error _ _ => false

/-- A positional value after a named one, on `select :a, ?`: the named value goes to `:a`,
number 1; the positional value is the first positional one, so it goes to number 1 as well and
replaces it, and the `?` is left null. -/
theorem positional_value_replaces_named :
    ∃ b, prepare 0 namedFirstCommand memoryWorld = .ok b memoryWorld ∧
      b.prepared.params = [some ":a", none] ∧ b.command.bindings.map (·.index) = [1, 1] ∧
      b.params.toList.map (fun d => (d.isNull, d.intValue)) = [(false, 2), (true, 0)] := by
  have hrun : namedFirstPrepares = true := by decide +kernel
  have hkeep := @Keeps.prepare 0 namedFirstCommand World id memoryWorld
  unfold namedFirstPrepares at hrun
  cases hr : prepare 0 namedFirstCommand memoryWorld with
  | error e w =>
    rw [hr] at hrun
    cases hrun
  | ok b w =>
    rw [hr] at hrun hkeep
    have hw : w = memoryWorld := hkeep
    exact ⟨b, by rw [hw], of_decide_eq_true hrun⟩

end Db

end RecordMap
