import RecordMap.Proofs.Database.Migration

/-!
# The mapping catalog keeps the first mapping built

A connection answers every request for a record type's mapping from its catalog: the first
request that builds the mapping decides it, with that request's flags, and every later request
for the type gets the same entry (the same mapping under the same identity), whatever flags it
gives. A request whose build fails keeps nothing, so a later one with other flags may still
succeed; and a request for one type never changes what is kept for another.

Main statement (`first_built_mapping_wins`), over every sequence of requests to a catalog that
keeps nothing yet. A request is a lookup (`Catalog.get?`) that either hits or misses; the
step lemmas say what each does (`Catalog.after_of_get?`, `Catalog.get?_after_of_builds`,
`Catalog.after_of_not_builds`, `Catalog.get?_after_of_ne`), and the run lemmas carry a kept
entry, or the absence of one, along the rest of the sequence.
-/

namespace RecordMap

/-- A request for the mapping of a record type, with the flags to build it with when the
catalog keeps none. -/
abbrev MappingRequest := RecordType × CreateFlags

namespace Catalog

/-- The catalog a request leaves: the one it is answered with, or the same one when it fails. -/
def after (c : Catalog) (r : MappingRequest) : Catalog :=
  match c.getMapping r.1.id r.1.name r.1.table r.2 with
  | .ok (_, c') => c'
  | .error _ => c

/-- The entry a request is answered with. -/
def answer (c : Catalog) (r : MappingRequest) : Outcome CatalogEntry :=
  (c.getMapping r.1.id r.1.name r.1.table r.2).map Prod.fst

/-- The catalog after requests, in order. -/
def afterAll (c : Catalog) (rs : List MappingRequest) : Catalog := rs.foldl after c

/-- Whether a request is for the record type in `slot` and its flags build a mapping. -/
def builds (slot : Nat) (r : MappingRequest) : Bool :=
  r.1.id == slot && (Mapping.build r.1.name r.1.table r.2).isOk

@[simp] theorem afterAll_nil (c : Catalog) : c.afterAll [] = c := rfl

@[simp] theorem afterAll_cons (c : Catalog) (r : MappingRequest) (rs : List MappingRequest) :
    c.afterAll (r :: rs) = (c.after r).afterAll rs := rfl

theorem afterAll_append (c : Catalog) (rs rs' : List MappingRequest) :
    c.afterAll (rs ++ rs') = (c.afterAll rs).afterAll rs' := List.foldl_append

/-! ## One request -/

section Step

variable {c : Catalog} {r : MappingRequest}

/-- Adding an entry for a type the catalog keeps nothing for: the lookup of that type finds it,
the lookup of any other type is as before. -/
theorem get?_append {e : CatalogEntry} (h : c.get? e.slot = none) (s : Nat) :
    ({ entries := c.entries ++ [e], nextId := c.nextId + 1 } : Catalog).get? s =
      if e.slot = s then some e else c.get? s := by
  simp only [get?] at h ⊢
  rw [List.find?_append]
  split
  · rename_i hs
    subst hs
    simp [h]
  · cases c.entries.find? (·.slot == s) with
    | some e' => rfl
    | none =>
      rename_i hs
      simp [hs]

theorem after_of_get? {e : CatalogEntry} (h : c.get? r.1.id = some e) :
    c.answer r = .ok e ∧ c.after r = c := by
  simp [answer, after, getMapping, h, Except.map]

/-- A miss whose build succeeds: a fresh entry, kept from then on. -/
theorem get?_after_of_builds (hmiss : c.get? r.1.id = none) (hb : builds r.1.id r = true) :
    ∃ m, Mapping.build r.1.name r.1.table r.2 = .ok m ∧
      c.answer r = .ok ⟨r.1.id, m, c.nextId⟩ ∧
      (c.after r).get? r.1.id = some ⟨r.1.id, m, c.nextId⟩ := by
  simp only [builds, beq_self_eq_true, Bool.true_and] at hb
  cases hm : Mapping.build r.1.name r.1.table r.2 with
  | error err =>
    rw [hm] at hb
    cases hb
  | ok m =>
    have hget := get?_append (e := ⟨r.1.id, m, c.nextId⟩) hmiss r.1.id
    refine ⟨m, rfl, ?_, ?_⟩
    · simp [answer, getMapping, hmiss, hm, Except.map, bind, Except.bind, pure, Except.pure]
    · simp only [after, getMapping, hmiss, hm]
      simpa using hget

theorem after_of_not_builds (hmiss : c.get? r.1.id = none) (hb : builds r.1.id r = false) :
    (∃ err, Mapping.build r.1.name r.1.table r.2 = .error err ∧ c.answer r = .error err) ∧
      c.after r = c := by
  simp only [builds, beq_self_eq_true, Bool.true_and] at hb
  cases hm : Mapping.build r.1.name r.1.table r.2 with
  | ok m =>
    rw [hm] at hb
    cases hb
  | error err =>
    refine ⟨⟨err, rfl, ?_⟩, ?_⟩
    · simp [answer, getMapping, hmiss, hm, Except.map, bind, Except.bind]
    · simp [after, getMapping, hmiss, hm, bind, Except.bind]

theorem get?_after_of_ne {s : Nat} (hs : r.1.id ≠ s) : (c.after r).get? s = c.get? s := by
  cases hhit : c.get? r.1.id with
  | some e => rw [(after_of_get? hhit).2]
  | none =>
    cases hm : Mapping.build r.1.name r.1.table r.2 with
    | error err => simp [after, getMapping, hhit, hm, bind, Except.bind]
    | ok m =>
      have hget := get?_append (e := ⟨r.1.id, m, c.nextId⟩) hhit s
      simp only [after, getMapping, hhit, hm]
      simpa [hs] using hget

end Step

/-! ## Sequences of requests -/

theorem get?_afterAll_of_some {c : Catalog} {s : Nat} {e : CatalogEntry} (h : c.get? s = some e)
    (rs : List MappingRequest) : (c.afterAll rs).get? s = some e := by
  induction rs generalizing c with
  | nil => exact h
  | cons r rs ih =>
    apply ih
    by_cases hs : r.1.id = s
    · subst hs
      rw [(after_of_get? h).2]
      exact h
    · rw [get?_after_of_ne hs]
      exact h

/-- A type none of whose requests builds stays without an entry. -/
theorem get?_afterAll_of_none {c : Catalog} {s : Nat} (h : c.get? s = none)
    {rs : List MappingRequest} (hrs : rs.find? (builds s) = none) : (c.afterAll rs).get? s = none := by
  induction rs generalizing c with
  | nil => exact h
  | cons r rs ih =>
    rw [List.find?_cons] at hrs
    split at hrs
    · cases hrs
    · rename_i hb
      apply ih _ hrs
      by_cases hs : r.1.id = s
      · subst hs
        rw [(after_of_not_builds h (by simpa using hb)).2]
        exact h
      · rw [get?_after_of_ne hs]
        exact h

/-- The first request for a type that builds decides: it is answered with a fresh entry holding
its build, and every later request for the type gets that entry and keeps the catalog. -/
theorem answer_of_first_built {c₀ : Catalog} (hc₀ : ∀ s, c₀.get? s = none)
    (pre : List MappingRequest) (r₀ : MappingRequest) (mid : List MappingRequest)
    (r : MappingRequest) (hpre : pre.find? (builds r.1.id) = none)
    (hb : builds r.1.id r₀ = true) :
    ∃ m₀, Mapping.build r₀.1.name r₀.1.table r₀.2 = .ok m₀ ∧
      (c₀.afterAll pre).answer r₀ = .ok ⟨r.1.id, m₀, (c₀.afterAll pre).nextId⟩ ∧
      (c₀.afterAll (pre ++ r₀ :: mid)).answer r = (c₀.afterAll pre).answer r₀ ∧
      (c₀.afterAll (pre ++ r₀ :: mid)).after r = c₀.afterAll (pre ++ r₀ :: mid) := by
  have hid : r₀.1.id = r.1.id := by
    simp only [builds, Bool.and_eq_true, beq_iff_eq] at hb
    exact hb.1
  have hmiss : (c₀.afterAll pre).get? r₀.1.id = none := by
    rw [hid]
    exact get?_afterAll_of_none (hc₀ _) hpre
  have hb₀ : builds r₀.1.id r₀ = true := by
    rw [hid]
    exact hb
  obtain ⟨m₀, hm₀, hanswer, hkept⟩ := get?_after_of_builds hmiss hb₀
  rw [hid] at hanswer hkept
  -- the entry made for `r₀` is kept through `mid`, so `r` hits it
  have hhit : (c₀.afterAll (pre ++ r₀ :: mid)).get? r.1.id =
      some ⟨r.1.id, m₀, (c₀.afterAll pre).nextId⟩ := by
    rw [afterAll_append, afterAll_cons]
    exact get?_afterAll_of_some hkept mid
  obtain ⟨hr, hafter⟩ := after_of_get? hhit
  exact ⟨m₀, hm₀, hanswer, by rw [hr, hanswer], hafter⟩

/-- Before any request for a type builds, a request is answered with the build under its own
flags in a fresh entry, and keeps nothing when that build fails. -/
theorem answer_of_none_built {c₀ : Catalog} (hc₀ : ∀ s, c₀.get? s = none)
    (rs : List MappingRequest) (r : MappingRequest) (hrs : rs.find? (builds r.1.id) = none) :
    (c₀.afterAll rs).answer r =
        (Mapping.build r.1.name r.1.table r.2).map (⟨r.1.id, ·, (c₀.afterAll rs).nextId⟩) ∧
      ((Mapping.build r.1.name r.1.table r.2).isOk = false →
        (c₀.afterAll rs).after r = c₀.afterAll rs) := by
  have hmiss := get?_afterAll_of_none (hc₀ r.1.id) hrs
  cases hb : builds r.1.id r with
  | true =>
    obtain ⟨m, hm, hanswer, -⟩ := get?_after_of_builds hmiss hb
    refine ⟨by rw [hanswer, hm]; rfl, fun hok => ?_⟩
    rw [hm] at hok
    cases hok
  | false =>
    obtain ⟨⟨err, hm, hanswer⟩, hafter⟩ := after_of_not_builds hmiss hb
    exact ⟨by rw [hanswer, hm]; rfl, fun _ => hafter⟩

/-- A request fails exactly when no earlier request for its type built and its own build fails. -/
theorem answer_isOk_false_iff {c₀ : Catalog} (hc₀ : ∀ s, c₀.get? s = none)
    (rs : List MappingRequest) (r : MappingRequest) :
    ((c₀.afterAll rs).answer r).isOk = false ↔
      rs.find? (builds r.1.id) = none ∧ (Mapping.build r.1.name r.1.table r.2).isOk = false := by
  cases hfind : rs.find? (builds r.1.id) with
  | some r₀ =>
    -- a request built before: split the requests at the first one that did
    obtain ⟨pre, mid, hsplit, hpre, hb⟩ : ∃ pre mid, rs = pre ++ r₀ :: mid ∧
        pre.find? (builds r.1.id) = none ∧ builds r.1.id r₀ = true := by
      obtain ⟨hb, pre, mid, hsplit, hpre⟩ := List.find?_eq_some_iff_append.1 hfind
      exact ⟨pre, mid, hsplit, List.find?_eq_none.2 fun x hx => by simpa using hpre x hx, hb⟩
    obtain ⟨m₀, -, hfirst, hanswer, -⟩ := answer_of_first_built hc₀ pre r₀ mid r hpre hb
    subst hsplit
    rw [hanswer, hfirst]
    exact ⟨fun h => (by cases h), fun h => (by cases h.1)⟩
  | none =>
    rw [(answer_of_none_built hc₀ rs r hfind).1]
    cases Mapping.build r.1.name r.1.table r.2 with
    | ok m => exact ⟨fun h => (by cases h), fun h => (by cases h.2)⟩
    | error err => exact ⟨fun _ => ⟨rfl, rfl⟩, fun _ => rfl⟩

theorem get?_empty (k s : Nat) : ({ nextId := k } : Catalog).get? s = none := rfl

/-- The mapping catalog keeps the first mapping built. Take a catalog that keeps nothing yet
(fresh or cleared, its next identity `k`), any requests `rs` answered in order, and one more
request for a record type `rt` with flags `flags`:
* if some earlier request for the type built its mapping, the first such request `r₀` was
  answered with a fresh entry holding its build, and this request gets that very entry (same
  identity) and keeps the catalog as it was;
* if none did, this request is answered with the build under its own flags, in a fresh entry,
  and when the build fails it keeps nothing;
* so the request fails exactly when no earlier request built and its own build fails;
* and the entry kept for any other type is as before. -/
theorem first_built_mapping_wins (k : Nat) (rs : List MappingRequest) (rt : RecordType)
    (flags : CreateFlags) :
    let c₀ : Catalog := { nextId := k }
    let c := c₀.afterAll rs
    (∀ pre r₀ mid, rs = pre ++ r₀ :: mid → pre.find? (builds rt.id) = none →
      builds rt.id r₀ = true →
        ∃ m₀, Mapping.build r₀.1.name r₀.1.table r₀.2 = .ok m₀ ∧
          (c₀.afterAll pre).answer r₀ = .ok ⟨rt.id, m₀, (c₀.afterAll pre).nextId⟩ ∧
          c.answer (rt, flags) = (c₀.afterAll pre).answer r₀ ∧ c.after (rt, flags) = c) ∧
    (rs.find? (builds rt.id) = none →
      c.answer (rt, flags) = (Mapping.build rt.name rt.table flags).map (⟨rt.id, ·, c.nextId⟩) ∧
        ((Mapping.build rt.name rt.table flags).isOk = false → c.after (rt, flags) = c)) ∧
    ((c.answer (rt, flags)).isOk = false ↔
      rs.find? (builds rt.id) = none ∧ (Mapping.build rt.name rt.table flags).isOk = false) ∧
    ∀ s, s ≠ rt.id → (c.after (rt, flags)).get? s = c.get? s := by
  intro c₀ c
  refine ⟨fun pre r₀ mid hsplit hpre hb => ?_, answer_of_none_built (get?_empty k) rs (rt, flags),
    answer_isOk_false_iff (get?_empty k) rs (rt, flags), fun s hs => get?_after_of_ne hs.symm⟩
  subst hsplit
  exact answer_of_first_built (get?_empty k) pre r₀ mid (rt, flags) hpre hb

/-- A record type with one integer field, `Id`, and no constraints. -/
def widgetType : RecordType :=
  { id := 0, name := "Widget", table :=
    { name := "Widget", columns := [{ property := "Id", field := ⟨.int .int64, false⟩ }] } }

/-- Asked for `Widget` first with no flags and then with every convention, a fresh catalog
hands out the keyless mapping built with no flags both times, under the same identity. -/
theorem widget_keeps_first_flags :
    ∃ m₀, Mapping.build "Widget" widgetType.table .none = .ok m₀ ∧ m₀.pk = none ∧
      ({} : Catalog).answer (widgetType, .none) = .ok ⟨0, m₀, 0⟩ ∧
      (({} : Catalog).afterAll [(widgetType, .none)]).answer (widgetType, ⟨7⟩) = .ok ⟨0, m₀, 0⟩ := by
  have hb : builds widgetType.id (widgetType, .none) = true := by decide +kernel
  have hpk : (Mapping.build "Widget" widgetType.table .none).toOption.map (·.pk.isNone) =
      some true := by
    decide +kernel
  obtain ⟨m₀, hm₀, hfirst, hanswer, -⟩ :=
    (first_built_mapping_wins 0 [(widgetType, .none)] widgetType ⟨7⟩).1 [] (widgetType, .none) []
      rfl rfl hb
  have hm : Mapping.build "Widget" widgetType.table .none = .ok m₀ := hm₀
  rw [hm] at hpk
  exact ⟨m₀, hm, Option.isNone_iff_eq_none.1 (Option.some.inj hpk), hfirst, hanswer.trans hfirst⟩

end Catalog

namespace Db

/-! ## Requests made through a connection -/

section Connection

variable {c : Nat} {rt : RecordType} {flags : CreateFlags} {w : World}

/-- A connection whose catalog answers a request with an entry hands out that entry's mapping
and keeps the catalog the request leaves. -/
theorem mappingWith_of_answer_ok {e : CatalogEntry}
    (h : (catalogOf c w).answer (rt, flags) = .ok e) :
    mappingWith c rt flags w = .ok e.mapping { w with connections := (w.connections.modify c
      fun k => { k with catalog := (catalogOf c w).after (rt, flags) }) } := by
  unfold mappingWith
  rw [bind_of_eq_ok _ (connection_apply c w)]
  simp only [Catalog.answer, Catalog.after] at h ⊢
  rw [show (w.connections.getD c default).catalog = catalogOf c w from rfl]
  cases hget : (catalogOf c w).getMapping rt.id rt.name rt.table flags with
  | ok p =>
    rw [hget] at h
    cases h
    rfl
  | error err =>
    rw [hget] at h
    cases h

/-- A connection whose catalog refuses a request fails with the same error and changes
nothing. -/
theorem mappingWith_of_answer_error {err : Error}
    (h : (catalogOf c w).answer (rt, flags) = .error err) :
    mappingWith c rt flags w = .error err w := by
  unfold mappingWith
  rw [bind_of_eq_ok _ (connection_apply c w)]
  simp only [Catalog.answer] at h
  rw [show (w.connections.getD c default).catalog = catalogOf c w from rfl]
  cases hget : (catalogOf c w).getMapping rt.id rt.name rt.table flags with
  | ok p =>
    rw [hget] at h
    cases h
  | error err' =>
    rw [hget] at h
    cases h
    rfl

end Connection

end Db

end RecordMap
