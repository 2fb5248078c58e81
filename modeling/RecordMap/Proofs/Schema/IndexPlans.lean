import RecordMap.Database.Tables
import Mathlib.Data.List.Sort
import Mathlib.Data.List.Induction
import Mathlib.Data.List.Perm.Basic

/-!
# Index plans

A mapping's columns declare index memberships. Each membership falls under an index name: the
one it gives, else `<table>_<column>` (`indexNameOf`). `planIndexes` reads the memberships
column by column in mapping order, and each column's in declaration order (`Mapping.memberships`),
and keeps one plan per index name in the order the names first occur.

The plans are those of `groupPlans`: a plan is unique as its first membership says and lists
its memberships' `(order, column)` pairs in declaration order; `planIndexes` then sorts each
list by order, keeping ties in declaration order. Planning succeeds exactly when the memberships
under each name agree on uniqueness (`UniqueAgrees`), and a disagreement is a schema error that
names the index (`planIndexes_eq_ok_iff`, `planIndexes_error`).

The proof is an invariant of the fold: after any prefix of the memberships, the plans built so
far are `groupPlans` of that prefix (`addMembership_groupPlans`, `foldlM_addMembership`).
-/

namespace RecordMap

/-! ## Memberships and the plans they group into -/

/-- The index name a membership of a column falls under: the name it gives, else
`<table>_<column>`. -/
def indexNameOf (table : String) (e : String × IndexAttr) : String :=
  e.2.name.getD (table ++ "_" ++ e.1)

/-- The index memberships of a mapping with the storage name of their column: columns in
mapping order, each column's memberships in declaration order. -/
def Mapping.memberships (m : Mapping) : List (String × IndexAttr) :=
  m.columns.flatMap fun col => col.indices.map (col.name, ·)

/-- Memberships that fall under one index name agree on whether it is unique. -/
def UniqueAgrees (table : String) (es : List (String × IndexAttr)) : Prop :=
  es.Pairwise fun a b => indexNameOf table a = indexNameOf table b → a.2.unique = b.2.unique

instance (table : String) (es : List (String × IndexAttr)) : Decidable (UniqueAgrees table es) :=
  inferInstanceAs (Decidable (List.Pairwise _ _))

/-- The memberships that fall under index name `n`, in order. -/
def membersOf (table : String) (es : List (String × IndexAttr)) (n : String) :
    List (String × IndexAttr) :=
  es.filter (indexNameOf table · == n)

/-- The plan of index `n`: unique as its first membership says, with its memberships'
`(order, column)` pairs in declaration order. -/
def groupPlan (table : String) (es : List (String × IndexAttr)) (n : String) : IndexPlan :=
  { name := n
    unique := ((membersOf table es n).head?.map (·.2.unique)).getD false
    columns := (membersOf table es n).map fun e => (e.2.order, e.1) }

/-- One plan per index name, in the order the names first occur. -/
def groupPlans (table : String) (es : List (String × IndexAttr)) : List IndexPlan :=
  (es.map (indexNameOf table)).eraseDups.map (groupPlan table es)

/-- A plan's columns sorted by their order, ties kept as they stand. -/
def IndexPlan.sorted (p : IndexPlan) : IndexPlan :=
  { p with columns := p.columns.mergeSort fun a b => a.1 ≤ b.1 }

/-- The schema error of an index whose memberships disagree on uniqueness. -/
def uniqueDisagreement (name : String) : Error :=
  .schema ("all the columns in index " ++ name ++
    " must have the same value for their unique property")

/-! ## Small facts about the grouping -/

theorem eraseDups_append_singleton (l : List String) (a : String) :
    (l ++ [a]).eraseDups = if a ∈ l then l.eraseDups else l.eraseDups ++ [a] := by
  rw [List.eraseDups_append]
  by_cases h : a ∈ l
  · have hr : [a].removeAll l = [] := by simp [List.removeAll, h]
    simp [hr, h]
  · have hr : [a].removeAll l = [a] := by simp [List.removeAll, h]
    simp [hr, h, List.eraseDups_cons]

theorem find?_beq_eq (l : List String) (n : String) :
    l.find? (· == n) = if n ∈ l then some n else none := by
  induction l with
  | nil => simp
  | cons a l ih =>
    by_cases h : a = n
    · subst h
      simp
    · have hne : (a == n) = false := by simpa using h
      rw [List.find?_cons, hne, ih]
      simp [Ne.symm h]

@[simp] theorem groupPlan_name (table : String) (es : List (String × IndexAttr)) (n : String) :
    (groupPlan table es n).name = n := rfl

theorem find?_groupPlans (table : String) (es : List (String × IndexAttr)) (n : String) :
    (groupPlans table es).find? (·.name == n) =
      if n ∈ es.map (indexNameOf table) then some (groupPlan table es n) else none := by
  rw [groupPlans, List.find?_map]
  have h : ((fun p : IndexPlan => p.name == n) ∘ groupPlan table es) = (· == n) := rfl
  rw [h, find?_beq_eq]
  by_cases hn : n ∈ es.map (indexNameOf table) <;> simp [hn, List.mem_eraseDups]

theorem membersOf_append_self (table : String) (es : List (String × IndexAttr))
    (e : String × IndexAttr) :
    membersOf table (es ++ [e]) (indexNameOf table e) = membersOf table es (indexNameOf table e) ++ [e] := by
  simp [membersOf, List.filter_append]

theorem membersOf_append_other (table : String) (es : List (String × IndexAttr))
    (e : String × IndexAttr) {n : String} (hn : indexNameOf table e ≠ n) :
    membersOf table (es ++ [e]) n = membersOf table es n := by
  simp [membersOf, List.filter_append, hn]

theorem groupPlan_append_other (table : String) (es : List (String × IndexAttr))
    (e : String × IndexAttr) {n : String} (hn : indexNameOf table e ≠ n) :
    groupPlan table (es ++ [e]) n = groupPlan table es n := by
  simp only [groupPlan, membersOf_append_other table es e hn]

theorem membersOf_eq_nil {table : String} {es : List (String × IndexAttr)} {n : String}
    (hn : n ∉ es.map (indexNameOf table)) : membersOf table es n = [] := by
  simp only [membersOf, List.filter_eq_nil_iff, beq_iff_eq]
  intro e he hen
  exact hn (List.mem_map.2 ⟨e, he, hen⟩)

/-- Agreeing memberships under one name are unique alike, in whichever order they come. -/
theorem UniqueAgrees.unique_eq {table : String} {es : List (String × IndexAttr)}
    (hagree : UniqueAgrees table es) {x y : String × IndexAttr} (hx : x ∈ es) (hy : y ∈ es)
    (hn : indexNameOf table x = indexNameOf table y) : x.2.unique = y.2.unique := by
  induction es with
  | nil => cases hx
  | cons a l ih =>
    rw [UniqueAgrees, List.pairwise_cons] at hagree
    obtain ⟨ha, hl⟩ := hagree
    rcases List.mem_cons.1 hx with rfl | hxl <;> rcases List.mem_cons.1 hy with rfl | hyl
    · rfl
    · exact ha y hyl hn
    · exact (ha x hxl hn.symm).symm
    · exact ih hl hxl hyl

theorem unique_eq_groupPlan {table : String} {es : List (String × IndexAttr)}
    (hagree : UniqueAgrees table es) {x : String × IndexAttr} (hx : x ∈ es) :
    x.2.unique = (groupPlan table es (indexNameOf table x)).unique := by
  have hmem : x ∈ membersOf table es (indexNameOf table x) := by simp [membersOf, hx]
  obtain ⟨f, rest, hfr⟩ := List.exists_cons_of_ne_nil (List.ne_nil_of_mem hmem)
  have hf : f ∈ membersOf table es (indexNameOf table x) := by simp [hfr]
  simp only [membersOf, List.mem_filter, beq_iff_eq] at hf
  simp only [groupPlan, hfr, List.head?_cons, Option.map_some, Option.getD_some]
  exact hagree.unique_eq hx hf.1 hf.2.symm

/-! ## One membership added to the plans -/

section Step

variable (table : String) (es : List (String × IndexAttr)) (e : String × IndexAttr)

theorem uniqueAgrees_append :
    UniqueAgrees table (es ++ [e]) ↔ UniqueAgrees table es ∧
      ∀ x ∈ es, indexNameOf table x = indexNameOf table e → x.2.unique = e.2.unique := by
  simp [UniqueAgrees, List.pairwise_append]

/-- A membership under a new name opens a plan at the end. -/
theorem groupPlans_append_new (hn : indexNameOf table e ∉ es.map (indexNameOf table)) :
    groupPlans table (es ++ [e]) =
      groupPlans table es ++ [⟨indexNameOf table e, e.2.unique, [(e.2.order, e.1)]⟩] := by
  have hnames : ((es ++ [e]).map (indexNameOf table)).eraseDups =
      (es.map (indexNameOf table)).eraseDups ++ [indexNameOf table e] := by
    rw [List.map_append, List.map_singleton, eraseDups_append_singleton, if_neg hn]
  rw [groupPlans, hnames, List.map_append, List.map_singleton]
  congr 1
  · apply List.map_congr_left
    intro n hn'
    apply groupPlan_append_other
    rintro rfl
    exact hn (List.mem_eraseDups.1 hn')
  · simp [groupPlan, membersOf_append_self, membersOf_eq_nil hn]

/-- A membership under a known name joins its plan at the end of its columns. -/
theorem groupPlans_append_known (hn : indexNameOf table e ∈ es.map (indexNameOf table)) :
    groupPlans table (es ++ [e]) = (groupPlans table es).map fun q =>
      if q.name == indexNameOf table e then { q with columns := q.columns ++ [(e.2.order, e.1)] }
      else q := by
  have hnames : ((es ++ [e]).map (indexNameOf table)).eraseDups =
      (es.map (indexNameOf table)).eraseDups := by
    rw [List.map_append, List.map_singleton, eraseDups_append_singleton, if_pos hn]
  rw [groupPlans, hnames, groupPlans, List.map_map]
  apply List.map_congr_left
  intro n _
  by_cases h : indexNameOf table e = n
  · subst h
    have hne : membersOf table es (indexNameOf table e) ≠ [] := by
      obtain ⟨x, hx, hxn⟩ := List.mem_map.1 hn
      exact List.ne_nil_of_mem (List.mem_filter.2 ⟨hx, by simp [hxn]⟩)
    obtain ⟨f, rest, hfr⟩ := List.exists_cons_of_ne_nil hne
    simp [groupPlan, membersOf_append_self, hfr]
  · have hne : (n == indexNameOf table e) = false := by simpa using Ne.symm h
    simp only [Function.comp_apply, groupPlan_name, hne, Bool.false_eq_true, if_false]
    exact groupPlan_append_other table es e h

/-- Adding a membership to the plans of agreeing memberships gives the plans of all of them
when the new one agrees, and the error that names its index when it does not. -/
theorem addMembership_groupPlans (hagree : UniqueAgrees table es) :
    addMembership table e.1 (groupPlans table es) e.2 =
      if UniqueAgrees table (es ++ [e]) then Except.ok (groupPlans table (es ++ [e]))
      else Except.error (uniqueDisagreement (indexNameOf table e)) := by
  have hname : e.2.name.getD (table ++ "_" ++ e.1) = indexNameOf table e := rfl
  unfold addMembership
  simp only [hname, find?_groupPlans]
  by_cases hn : indexNameOf table e ∈ es.map (indexNameOf table)
  · obtain ⟨x, hx, hxn⟩ := List.mem_map.1 hn
    have hux := unique_eq_groupPlan hagree hx
    rw [hxn] at hux
    by_cases hu : (groupPlan table es (indexNameOf table e)).unique = e.2.unique
    · -- every earlier membership under the name is unique as the plan, hence as `e`
      have hall : UniqueAgrees table (es ++ [e]) := by
        refine (uniqueAgrees_append table es e).2 ⟨hagree, fun y hy hyn => ?_⟩
        rw [unique_eq_groupPlan hagree hy, hyn, hu]
      simp only [if_pos hn, hu, bne_self_eq_false, Bool.false_eq_true, if_false, if_pos hall]
      rw [groupPlans_append_known table es e hn]
      rfl
    · have hnot : ¬ UniqueAgrees table (es ++ [e]) := fun h =>
        hu (hux ▸ ((uniqueAgrees_append table es e).1 h).2 x hx hxn)
      have hbne : ((groupPlan table es (indexNameOf table e)).unique != e.2.unique) = true := by
        simpa using hu
      simp only [if_pos hn, hbne, if_true, if_neg hnot]
      rfl
  · have hall : UniqueAgrees table (es ++ [e]) :=
      (uniqueAgrees_append table es e).2 ⟨hagree, fun y hy hyn =>
        absurd (List.mem_map.2 ⟨y, hy, hyn⟩) hn⟩
    simp only [if_neg hn, if_pos hall, groupPlans_append_new table es e hn]
    rfl

end Step

/-! ## The whole fold -/

theorem foldlM_flatMap {m : Type → Type} [Monad m] [LawfulMonad m] {α β γ : Type}
    {f : α → List γ} {g : β → γ → m β} {l : List α} {init : β} :
    (l.flatMap f).foldlM g init = l.foldlM (fun acc x => (f x).foldlM g acc) init := by
  induction l generalizing init with
  | nil => simp
  | cons a l ih => simp [ih]

/-- The step `planIndexes` folds over the memberships. -/
def addMembershipTo (table : String) (plans : List IndexPlan) (e : String × IndexAttr) :
    Outcome (List IndexPlan) :=
  addMembership table e.1 plans e.2

/-- Folding the memberships `rest` into the plans of agreeing memberships `es` gives the plans
of `es ++ rest` when all agree, and otherwise fails with the error of some index whose
memberships disagree. -/
theorem foldlM_addMembership (table : String) (rest : List (String × IndexAttr)) :
    ∀ es : List (String × IndexAttr), UniqueAgrees table es →
      (rest.foldlM (addMembershipTo table) (groupPlans table es) =
          .ok (groupPlans table (es ++ rest)) ∧ UniqueAgrees table (es ++ rest)) ∨
        (¬ UniqueAgrees table (es ++ rest) ∧ ∃ x ∈ rest,
          rest.foldlM (addMembershipTo table) (groupPlans table es) =
            .error (uniqueDisagreement (indexNameOf table x))) := by
  induction rest with
  | nil =>
    intro es hagree
    exact .inl ⟨by simp [pure, Except.pure], by simpa using hagree⟩
  | cons e rest ih =>
    intro es hagree
    rw [List.foldlM_cons]
    have hstep := addMembership_groupPlans table es e hagree
    simp only [addMembershipTo] at hstep ⊢
    by_cases he : UniqueAgrees table (es ++ [e])
    · rw [if_pos he] at hstep
      rw [hstep]
      have hrest := ih (es ++ [e]) he
      simp only [List.append_assoc, List.singleton_append] at hrest
      rcases hrest with ⟨hok, hall⟩ | ⟨hnot, x, hx, herr⟩
      · exact .inl ⟨hok, hall⟩
      · exact .inr ⟨hnot, x, List.mem_cons_of_mem e hx, herr⟩
    · rw [if_neg he] at hstep
      rw [hstep]
      refine .inr ⟨fun h => he ?_, e, List.mem_cons_self, rfl⟩
      have hsub : (es ++ [e]).Sublist (es ++ e :: rest) :=
        List.Sublist.append_left (List.singleton_sublist.2 List.mem_cons_self) es
      exact List.Pairwise.sublist hsub h

theorem planIndexes_eq (m : Mapping) :
    planIndexes m = (fun plans => plans.map IndexPlan.sorted) <$>
      m.memberships.foldlM (addMembershipTo m.tableName) [] := by
  simp only [planIndexes, Mapping.memberships, foldlM_flatMap, List.foldlM_map]
  rfl


/-! ## What the plans say -/

/-- `sorted` is `l` ordered by the first components, entries of one key kept in their order in
`l`: a stable sort of `l`. -/
structure SortedStably (l sorted : List (Int × String)) : Prop where
  perm : sorted.Perm l
  ordered : sorted.Pairwise fun a b => a.1 ≤ b.1
  stable : ∀ k, sorted.filter (·.1 == k) = l.filter (·.1 == k)

/-- The merge sort by order is stable: the entries of each key keep their order. -/
theorem mergeSort_sortedStably (l : List (Int × String)) :
    SortedStably l (l.mergeSort fun a b => a.1 ≤ b.1) := by
  have htrans : ∀ a b c : Int × String, decide (a.1 ≤ b.1) = true → decide (b.1 ≤ c.1) = true →
      decide (a.1 ≤ c.1) = true := by
    intro a b c hab hbc
    simp only [decide_eq_true_eq] at hab hbc ⊢
    omega
  have htotal : ∀ a b : Int × String, (decide (a.1 ≤ b.1) || decide (b.1 ≤ a.1)) = true := by
    intro a b
    simp only [Bool.or_eq_true, decide_eq_true_eq]
    omega
  refine ⟨List.mergeSort_perm l _, ?_, fun k => ?_⟩
  · simpa using List.pairwise_mergeSort htrans htotal l
  · -- the entries of key `k` are sorted already, so the sort keeps them as a sublist
    have hsame : (l.filter (·.1 == k)).Pairwise fun a b => decide (a.1 ≤ b.1) = true := by
      refine List.Pairwise.imp_of_mem (R := fun _ _ => True) ?_ (List.pairwise_of_forall fun _ _ => trivial)
      intro a b ha hb _
      simp only [List.mem_filter, beq_iff_eq] at ha hb
      simp [ha.2, hb.2]
    have hsub := List.sublist_mergeSort htrans htotal hsame (List.filter_sublist (l := l))
    have hsub' : List.Sublist (l.filter (·.1 == k))
        ((l.mergeSort fun a b => a.1 ≤ b.1).filter (·.1 == k)) := by
      have h := hsub.filter (·.1 == k)
      rwa [List.filter_filter, List.filter_congr (fun x _ => Bool.and_self (x.1 == k))] at h
    have hlen := ((List.mergeSort_perm l fun a b => decide (a.1 ≤ b.1)).filter (·.1 == k)).length_eq
    exact (hsub'.eq_of_length hlen.symm).symm

theorem nodup_eraseDups (l : List String) : l.eraseDups.Nodup := by
  induction l using List.reverseRecOn with
  | nil => simp
  | append_singleton l a ih =>
    rw [eraseDups_append_singleton]
    split
    · exact ih
    · rename_i ha
      refine List.nodup_append.2 ⟨ih, List.nodup_singleton a, ?_⟩
      intro b hb c hc
      rw [List.mem_singleton] at hc
      subst hc
      rintro rfl
      exact ha (List.mem_eraseDups.1 hb)

theorem flatMap_add_absent {α β : Type} [DecidableEq β] (g : β → List α) {b : β} (e : α)
    {D : List β} (hb : b ∉ D) :
    (D.flatMap fun n => g n ++ if b = n then [e] else []) = D.flatMap g := by
  apply List.flatMap_congr
  intro n hn
  have : b ≠ n := fun h => hb (h ▸ hn)
  simp [this]

/-- Adding an item to the group of a key that a duplicate-free list holds puts it after all the
groups, up to order. -/
theorem flatMap_add_present_perm {α β : Type} [DecidableEq β] (g : β → List α) {b : β} (e : α) :
    ∀ {D : List β}, D.Nodup → b ∈ D →
      (D.flatMap fun n => g n ++ if b = n then [e] else []).Perm (D.flatMap g ++ [e])
  | [], _, hmem => by cases hmem
  | d :: D, hD, hmem => by
    rw [List.nodup_cons] at hD
    simp only [List.flatMap_cons, List.append_assoc]
    -- the key is the head, which the rest does not hold, or it is in the rest
    by_cases hd : b = d
    · subst hd
      rw [if_pos rfl, flatMap_add_absent g e hD.1]
      exact List.Perm.append_left _ List.perm_append_comm
    · rw [if_neg hd, List.nil_append]
      exact List.Perm.append_left _
        (flatMap_add_present_perm g e hD.2 ((List.mem_cons.1 hmem).resolve_left hd))

/-- Grouping a list by a key and reading the groups in the order their keys first occur loses
and repeats nothing. -/
theorem flatMap_filter_eraseDups_perm {α : Type} (k : α → String) (es : List α) :
    ((es.map k).eraseDups.flatMap fun n => es.filter (k · == n)).Perm es := by
  induction es using List.reverseRecOn with
  | nil => simp
  | append_singleton es e ih =>
    have hsplit : ∀ n, (es ++ [e]).filter (k · == n) =
        es.filter (k · == n) ++ (if k e = n then [e] else []) := by
      intro n
      by_cases h : k e = n <;> simp [List.filter_append, h]
    rw [List.map_append, List.map_singleton, eraseDups_append_singleton]
    simp only [hsplit]
    by_cases he : k e ∈ es.map k
    · rw [if_pos he]
      -- exactly one key of the duplicate-free list is `k e`, and only its group gains `e`
      exact (flatMap_add_present_perm _ e (nodup_eraseDups _) (List.mem_eraseDups.2 he)).trans
        (ih.append_right [e])
    · have hnone : es.filter (k · == k e) = [] := by
        simp only [List.filter_eq_nil_iff, beq_iff_eq]
        intro x hx hxe
        exact he (List.mem_map.2 ⟨x, hx, hxe⟩)
      -- a new key: the old groups stay, and `e` forms its own group at the end
      rw [if_neg he, List.flatMap_append, List.flatMap_singleton,
        flatMap_add_absent _ e (fun hn => he (List.mem_eraseDups.1 hn)), hnone, if_pos rfl,
        List.nil_append]
      exact ih.append_right [e]

theorem groupPlans_names (table : String) (es : List (String × IndexAttr)) :
    (groupPlans table es).map (·.name) = (es.map (indexNameOf table)).eraseDups := by
  simp [groupPlans, List.map_map, Function.comp_def]

/-- Every membership stands in the plans once, under its index name, with its order and column. -/
theorem groupPlans_memberships_perm (table : String) (es : List (String × IndexAttr)) :
    ((groupPlans table es).flatMap fun p => p.columns.map (p.name, ·)).Perm
      (es.map fun e => (indexNameOf table e, e.2.order, e.1)) := by
  have hplan : ∀ n ∈ (es.map (indexNameOf table)).eraseDups,
      ((groupPlan table es n).columns.map ((groupPlan table es n).name, ·)) =
        (membersOf table es n).map fun e => (indexNameOf table e, e.2.order, e.1) := by
    intro n _
    simp only [groupPlan, List.map_map]
    apply List.map_congr_left
    intro e he
    simp only [membersOf, List.mem_filter, beq_iff_eq] at he
    simp [he.2]
  rw [groupPlans, List.flatMap_map, List.flatMap_congr hplan]
  simp only [membersOf, ← List.map_flatMap]
  exact (flatMap_filter_eraseDups_perm (indexNameOf table) es).map _

/-- Planning succeeds exactly when the memberships under each index name agree on uniqueness,
and then gives the grouped plans with their columns sorted. -/
theorem planIndexes_eq_ok_iff (m : Mapping) (plans : List IndexPlan) :
    planIndexes m = .ok plans ↔ UniqueAgrees m.tableName m.memberships ∧
      plans = (groupPlans m.tableName m.memberships).map IndexPlan.sorted := by
  have hfold := foldlM_addMembership m.tableName m.memberships [] List.Pairwise.nil
  simp only [List.nil_append] at hfold
  have hnil : groupPlans m.tableName [] = [] := rfl
  rw [hnil] at hfold
  rw [planIndexes_eq]
  rcases hfold with ⟨hok, hall⟩ | ⟨hnot, x, -, herr⟩
  · rw [hok]
    constructor
    · intro h
      cases h
      exact ⟨hall, rfl⟩
    · rintro ⟨-, rfl⟩
      rfl
  · rw [herr]
    constructor
    · intro h
      cases h
    · rintro ⟨hall, -⟩
      exact absurd hall hnot

/-- A failed plan is the schema error of an index some membership falls under, and the
memberships disagree on uniqueness. -/
theorem planIndexes_error (m : Mapping) {e : Error} (h : planIndexes m = .error e) :
    ¬ UniqueAgrees m.tableName m.memberships ∧
      ∃ x ∈ m.memberships, e = uniqueDisagreement (indexNameOf m.tableName x) := by
  have hfold := foldlM_addMembership m.tableName m.memberships [] List.Pairwise.nil
  simp only [List.nil_append] at hfold
  have hnil : groupPlans m.tableName [] = [] := rfl
  rw [hnil] at hfold
  rw [planIndexes_eq] at h
  rcases hfold with ⟨hok, -⟩ | ⟨hnot, x, hx, herr⟩
  · rw [hok] at h
    cases h
  · rw [herr] at h
    cases h
    exact ⟨hnot, x, hx, rfl⟩


/-- `plans` group the memberships `es` by index name: one plan per name in the order the names
first occur, each unique as its memberships are, listing their `(order, column)` pairs sorted
stably by order, and every membership standing in exactly one plan, once. -/
structure GroupsMemberships (table : String) (es : List (String × IndexAttr))
    (plans : List IndexPlan) : Prop where
  names : plans.map (·.name) = (es.map (indexNameOf table)).eraseDups
  unique : ∀ p ∈ plans, ∀ e ∈ membersOf table es p.name, e.2.unique = p.unique
  sorted : ∀ p ∈ plans,
    SortedStably ((membersOf table es p.name).map fun e => (e.2.order, e.1)) p.columns
  eachOnce : (plans.flatMap fun p => p.columns.map (p.name, ·)).Perm
    (es.map fun e => (indexNameOf table e, e.2.order, e.1))

/-- The grouped plans, each sorted, group agreeing memberships. -/
theorem groupsMemberships_sorted (table : String) (es : List (String × IndexAttr))
    (hagree : UniqueAgrees table es) :
    GroupsMemberships table es ((groupPlans table es).map IndexPlan.sorted) := by
  have hmem : ∀ p ∈ (groupPlans table es).map IndexPlan.sorted,
      ∃ n, p = (groupPlan table es n).sorted := by
    intro p hp
    obtain ⟨q, hq, rfl⟩ := List.mem_map.1 hp
    obtain ⟨n, -, rfl⟩ := List.mem_map.1 hq
    exact ⟨n, rfl⟩
  refine ⟨?_, ?_, ?_, ?_⟩
  · rw [List.map_map]
    exact groupPlans_names table es
  · intro p hp e he
    obtain ⟨n, rfl⟩ := hmem p hp
    simp only [IndexPlan.sorted, groupPlan, membersOf, List.mem_filter, beq_iff_eq] at he ⊢
    have hu := unique_eq_groupPlan hagree he.1
    rw [he.2] at hu
    exact hu
  · intro p hp
    obtain ⟨n, rfl⟩ := hmem p hp
    exact mergeSort_sortedStably _
  · -- sorting moves columns within their plan only
    have hsort : ∀ q : IndexPlan, (q.sorted.columns.map (q.sorted.name, ·)).Perm
        (q.columns.map (q.name, ·)) := fun q => ((List.mergeSort_perm _ _).map _)
    rw [List.flatMap_map]
    exact (List.Perm.flatMap_left _ fun q _ => hsort q).trans
      (groupPlans_memberships_perm table es)


theorem planIndexes_ok_iff_uniqueAgrees (m : Mapping) :
    (∃ plans, planIndexes m = .ok plans) ↔ UniqueAgrees m.tableName m.memberships := by
  constructor
  · rintro ⟨plans, h⟩
    exact ((planIndexes_eq_ok_iff m plans).1 h).1
  · intro hagree
    exact ⟨_, (planIndexes_eq_ok_iff m _).2 ⟨hagree, rfl⟩⟩

theorem planIndexes_groupsMemberships {m : Mapping} {plans : List IndexPlan}
    (h : planIndexes m = .ok plans) : GroupsMemberships m.tableName m.memberships plans := by
  obtain ⟨hagree, rfl⟩ := (planIndexes_eq_ok_iff m plans).1 h
  exact groupsMemberships_sorted _ _ hagree

end RecordMap
