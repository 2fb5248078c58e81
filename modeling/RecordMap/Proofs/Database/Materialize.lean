import RecordMap.Database.Command
import RecordMap.Proofs.Schema.Build
import RecordMap.Proofs.Database.Codec

/-!
# Records read back from their rows

A record written through a mapping and read back from a row of the values it was bound to is
the record again, up to the precision of tick storage and the storage of a NaN as null, with
every ignored field at its default (`materialize_boundRow`). The row may name its columns in any letter case and any order, and
may carry columns the mapping does not know.

The argument follows `materialize`: each result column finds the mapped column of its name,
exactly the one whose storage name it spells up to case, since the build admits no two storage
names equal up to case (`columnSlot_of_same`, `columnSlot_of_unmapped`); each value reads back
(`readColumn_bindValue`); and the record is the blank one with each mapped field set once, in
whatever order the row gives them, since the fields sit at distinct positions
(`setAll_perm`).
-/

namespace RecordMap

open RecordMap.Sql (Datum)

/-! ## The mapped columns of a build -/

/-- The fields a build maps, with their positions in the record. -/
def TableDef.mappedEntries (t : TableDef) : List (Nat × ColumnDef) :=
  (t.columns.zipIdx.map fun (c, i) => (i, c)).filter fun (_, c) => !c.has .ignore

/-- A resolved column keeps the position, field and storage name of its declaration, and reads
as the field's type. -/
theorem resolveColumn_carries {table : String} {flags : CreateFlags} {explicitKey : Bool}
    {i : Nat} {d : ColumnDef} {c : Column}
    (h : resolveColumn table flags explicitKey (i, d) = .ok c) :
    c.position = i ∧ c.field = d.field ∧ c.name = d.name ∧ c.dataType = d.field.dataType := by
  unfold resolveColumn at h
  simp only [CreateFlags.contains_implicitPk, CreateFlags.contains_autoIncPk,
    eqIgnoreAsciiCase_eq_decide, implicitPkName] at h
  split at h
  · cases h
  · split at h
    · cases h
    · split at h
      · cases h
      · cases h
        exact ⟨rfl, rfl, rfl, rfl⟩

section Build

variable {typeName : String} {t : TableDef} {flags : CreateFlags} {m : Mapping}

theorem build_columns (h : Mapping.build typeName t flags = .ok m) :
    List.Forall₂ (fun (p : Nat × ColumnDef) (c : Column) => c.position = p.1 ∧
      c.field = p.2.field ∧ c.name = p.2.name ∧ c.dataType = p.2.field.dataType)
      t.mappedEntries m.columns :=
  (mapM_ok_forall₂ (build_ok_columns h).1).imp fun _ _ => resolveColumn_carries

theorem build_names_distinct (h : Mapping.build typeName t flags = .ok m) :
    m.columns.Pairwise fun a b => ¬ SameUpToAsciiCase a.name b.name := by
  have hnames := ((firstRepeatedName_eq_none_iff [] _).1 (build_ok_columns h).2.2).2
  exact List.pairwise_map.1 hnames

end Build

theorem mem_mappedEntries {t : TableDef} {j : Nat} {d : ColumnDef} :
    (j, d) ∈ t.mappedEntries ↔ t.columns[j]? = some d ∧ d.has .ignore = false := by
  simp only [TableDef.mappedEntries, List.mem_filter, List.mem_map, Prod.mk.injEq,
    Bool.not_eq_eq_eq_not, Bool.not_true]
  constructor
  · rintro ⟨⟨⟨c, i⟩, hmem, rfl, rfl⟩, hign⟩
    exact ⟨List.mem_zipIdx_iff_getElem?.1 hmem, hign⟩
  · rintro ⟨hj, hign⟩
    exact ⟨⟨(d, j), List.mem_zipIdx_iff_getElem?.2 hj, rfl, rfl⟩, hign⟩

theorem mappedEntries_positions_nodup (t : TableDef) :
    (t.mappedEntries.map (·.1)).Nodup := by
  have hall : ((t.columns.zipIdx.map fun (c, i) => (i, c)).map (·.1)).Nodup := by
    rw [List.map_map]
    have h := List.zipIdx_map_snd 0 t.columns
    simp only [Function.comp_def] at h ⊢
    rw [h]
    exact List.nodup_range' ..
  exact hall.sublist ((List.filter_sublist ..).map _)

/-! ## Finding a column by name -/

/-- The mapped column a result column of a name is read into. -/
def columnSlot (m : Mapping) (n : String) : Option Column :=
  (m.findColumnIndex n).bind (m.columns[·]?)

theorem columnSlots_eq (m : Mapping) (names : List String) :
    Db.columnSlots m names = names.map (columnSlot m) := rfl

theorem sameUpToAsciiCase_refl (a : String) : SameUpToAsciiCase a a := rfl

theorem SameUpToAsciiCase.trans {a b c : String} (h1 : SameUpToAsciiCase a b)
    (h2 : SameUpToAsciiCase b c) : SameUpToAsciiCase a c :=
  Eq.trans h1 h2

/-- In a list of pairwise related elements, two that are related neither way are one. -/
theorem eq_of_pairwise_of_not {α : Type} {R : α → α → Prop} {l : List α} (hl : l.Pairwise R)
    {x y : α} (hx : x ∈ l) (hy : y ∈ l) (hxy : ¬ R x y) (hyx : ¬ R y x) : x = y := by
  induction l with
  | nil => cases hx
  | cons a l ih =>
    rw [List.pairwise_cons] at hl
    rcases List.mem_cons.1 hx with hxa | hx' <;> rcases List.mem_cons.1 hy with hya | hy'
    · rw [hxa, hya]
    · subst hxa
      exact absurd (hl.1 y hy') hxy
    · subst hya
      exact absurd (hl.1 x hx') hyx
    · exact ih hl.2 hx' hy'

section Slot

variable {m : Mapping} {n : String}

theorem getElem?_of_findIdx? {p : Column → Bool} {i : Nat} (h : m.columns.findIdx? p = some i) :
    ∃ c ∈ m.columns, m.columns[i]? = some c ∧ p c = true := by
  obtain ⟨hi, hp, -⟩ := List.findIdx?_eq_some_iff_getElem.1 h
  exact ⟨_, List.getElem_mem hi, List.getElem?_eq_getElem hi, hp⟩

/-- A name that spells a mapped storage name up to case finds that column, the names being
distinct up to case. -/
theorem columnSlot_of_same
    (hdistinct : m.columns.Pairwise fun a b => ¬ SameUpToAsciiCase a.name b.name) {col : Column} (hcol : col ∈ m.columns) (hn : SameUpToAsciiCase n col.name) :
    columnSlot m n = some col := by
  -- whatever the search finds spells the same name up to case, so it is `col`
  have hunique : ∀ c ∈ m.columns, SameUpToAsciiCase c.name n → c = col := fun c hc hcn =>
    eq_of_pairwise_of_not hdistinct hc hcol (not_not.2 (hcn.trans hn))
      (not_not.2 (hcn.trans hn).symm)
  unfold columnSlot Mapping.findColumnIndex
  cases hexact : m.columns.findIdx? (·.name == n) with
  | some i =>
    obtain ⟨c, hc, hci, hname⟩ := getElem?_of_findIdx? hexact
    rw [beq_iff_eq] at hname
    rw [Option.orElse_some, Option.bind_some, hci, hunique c hc (hname ▸ sameUpToAsciiCase_refl _)]
  | none =>
    -- the search up to case finds some column, since `col` passes it
    obtain ⟨i, hi⟩ : ∃ i, m.columns.findIdx? (eqIgnoreAsciiCase ·.name n) = some i := by
      refine Option.isSome_iff_exists.1 ?_
      rw [List.findIdx?_isSome, List.any_eq_true]
      exact ⟨col, hcol, by simpa using hn.symm⟩
    obtain ⟨c, hc, hci, hsame⟩ := getElem?_of_findIdx? hi
    simp only [eqIgnoreAsciiCase_eq_decide, decide_eq_true_eq] at hsame
    rw [Option.orElse_none, hi, Option.bind_some, hci, hunique c hc hsame]

/-- A name that spells no mapped storage name, in any case, finds no column. -/
theorem columnSlot_of_unmapped (hn : ∀ col ∈ m.columns, ¬ SameUpToAsciiCase n col.name) :
    columnSlot m n = none := by
  have hexact : m.columns.findIdx? (·.name == n) = none := by
    refine List.findIdx?_eq_none_iff.2 fun c hc => ?_
    rw [beq_eq_false_iff_ne]
    rintro rfl
    exact hn c hc (sameUpToAsciiCase_refl _)
  have hfold : m.columns.findIdx? (eqIgnoreAsciiCase ·.name n) = none := by
    refine List.findIdx?_eq_none_iff.2 fun c hc => ?_
    simp only [eqIgnoreAsciiCase_eq_decide, decide_eq_false_iff_not]
    exact fun h => hn c hc h.symm
  unfold columnSlot Mapping.findColumnIndex
  rw [hexact, Option.orElse_none, hfold, Option.bind_none]

end Slot

/-! ## Setting fields one by one -/

section SetFields

variable {α : Type}

/-- Setting fields along a list of positions and values. -/
abbrev setAll (init : List α) (A : List (Nat × α)) : List α :=
  A.foldl (fun r q => r.set q.1 q.2) init

theorem length_setAll (init : List α) (A : List (Nat × α)) :
    (setAll init A).length = init.length := by
  induction A generalizing init with
  | nil => rfl
  | cons q A ih => rw [setAll, List.foldl_cons, ← setAll, ih, List.length_set]

theorem getElem?_setAll_of_not_mem {init : List α} {A : List (Nat × α)} {j : Nat}
    (h : ∀ q ∈ A, q.1 ≠ j) : (setAll init A)[j]? = init[j]? := by
  induction A generalizing init with
  | nil => rfl
  | cons q A ih =>
    rw [setAll, List.foldl_cons, ← setAll, ih fun q' hq' => h q' (List.mem_cons_of_mem _ hq'),
      List.getElem?_set_ne (h q (List.mem_cons_self ..))]

/-- A position assigned once takes the value assigned. -/
theorem getElem?_setAll_of_mem {init : List α} {A : List (Nat × α)} {j : Nat} {v : α}
    (hA : (A.map (·.1)).Nodup) (hmem : (j, v) ∈ A) (hj : j < init.length) :
    (setAll init A)[j]? = some v := by
  induction A generalizing init with
  | nil => cases hmem
  | cons q A ih =>
    rw [List.map_cons, List.nodup_cons] at hA
    rw [setAll, List.foldl_cons, ← setAll]
    rcases List.mem_cons.1 hmem with rfl | hmem
    · -- the last assignment to `j`: later ones name other positions
      rw [getElem?_setAll_of_not_mem fun q' hq' heq => hA.1 (List.mem_map.2 ⟨q', hq', heq⟩),
        List.getElem?_set_self hj]
    · exact ih hA.2 hmem (by rw [List.length_set]; exact hj)

/-- Assignments to distinct positions can be made in any order. -/
theorem setAll_perm {A B : List (Nat × α)} (hAB : A.Perm B) (hB : (B.map (·.1)).Nodup)
    (init : List α) : setAll init A = setAll init B := by
  have hA : (A.map (·.1)).Nodup := ((hAB.map _).nodup_iff).2 hB
  apply List.ext_getElem?
  intro j
  by_cases hj : j < init.length
  · by_cases hmem : ∃ v, (j, v) ∈ B
    · obtain ⟨v, hv⟩ := hmem
      rw [getElem?_setAll_of_mem hA (hAB.mem_iff.2 hv) hj, getElem?_setAll_of_mem hB hv hj]
    · have hnot : ∀ q ∈ B, q.1 ≠ j := fun q hq hqj => hmem ⟨q.2, hqj ▸ hq⟩
      rw [getElem?_setAll_of_not_mem fun q hq => hnot q (hAB.mem_iff.1 hq),
        getElem?_setAll_of_not_mem hnot]
  · rw [List.getElem?_eq_none (by rw [length_setAll]; omega),
      List.getElem?_eq_none (by rw [length_setAll]; omega)]

end SetFields

/-! ## Reading a row -/

/-- One step of `materialize`: a result column read into its mapped field. -/
def fillRecord (record : List Value) : Option Column × Datum → Except TypeFault (List Value)
  | (some col, d) => do
    let v ← readColumn d col.dataType
    let stored ← col.field.accept v
    pure (record.set col.position stored)
  | (none, _) => pure record

theorem materialize_eq (rt : RecordType) (slots : List (Option Column)) (row : List Datum) :
    Db.materialize rt slots row = (slots.zip row).foldlM fillRecord rt.blank := rfl

/-- Reading result columns whose values read back into their fields sets those fields. -/
theorem foldlM_fillRecord (val : Column → Value) :
    ∀ (L : List (Option Column × Datum)) (init : List Value),
      (∀ col d, (some col, d) ∈ L →
        (readColumn d col.dataType >>= col.field.accept) = .ok (val col)) →
      L.foldlM fillRecord init =
        .ok (setAll init (L.filterMap fun p => p.1.map fun col => (col.position, val col)))
  | [], _, _ => rfl
  | (none, d) :: L, init, h => by
    rw [List.foldlM_cons, List.filterMap_cons]
    exact foldlM_fillRecord val L init fun col d' hd' => h col d' (List.mem_cons_of_mem _ hd')
  | (some col, d) :: L, init, h => by
    have hstep : fillRecord init (some col, d) = .ok (init.set col.position (val col)) := by
      have hcol := h col d (List.mem_cons_self ..)
      cases hr : readColumn d col.dataType with
      | error e =>
        rw [hr] at hcol
        cases hcol
      | ok v =>
        rw [hr] at hcol
        simp only [fillRecord, hr, bind, Except.bind] at hcol ⊢
        rw [hcol]
        rfl
    rw [List.foldlM_cons, List.filterMap_cons, hstep]
    exact foldlM_fillRecord val L _ fun col' d' hd' => h col' d' (List.mem_cons_of_mem _ hd')

/-! ## Rows of bound values -/

/-- A result row of the values a record was bound to: one entry for each mapped field, named
by its storage name in any letter case and holding the value the field was bound to, and
entries whose names are no mapped storage name in any case, all in any order. -/
def BoundRow (ticks : Bool) (t : TableDef) (x : List Value) (row : List (String × Datum)) :
    Prop :=
  ∃ entries extras, row.Perm (entries ++ extras) ∧
    List.Forall₂ (fun (p : Nat × ColumnDef) (e : String × Datum) =>
      SameUpToAsciiCase e.1 p.2.name ∧ bindValue ticks (x.getD p.1 .null) = .ok e.2)
      t.mappedEntries entries ∧
    ∀ e ∈ extras, ∀ p ∈ t.mappedEntries, ¬ SameUpToAsciiCase e.1 p.2.name

theorem Forall₂_exists_left {α β : Type} {R : α → β → Prop} {l₁ : List α} {l₂ : List β}
    (h : List.Forall₂ R l₁ l₂) {b : β} (hb : b ∈ l₂) : ∃ a ∈ l₁, R a b := by
  induction h with
  | nil => cases hb
  | cons hab _ ih =>
    rcases List.mem_cons.1 hb with rfl | hb
    · exact ⟨_, List.mem_cons_self .., hab⟩
    · obtain ⟨a, ha, hR⟩ := ih hb
      exact ⟨a, List.mem_cons_of_mem _ ha, hR⟩

theorem Forall₂_exists_right {α β : Type} {R : α → β → Prop} {l₁ : List α} {l₂ : List β}
    (h : List.Forall₂ R l₁ l₂) {a : α} (ha : a ∈ l₁) : ∃ b ∈ l₂, R a b := by
  induction h with
  | nil => cases ha
  | cons hab _ ih =>
    rcases List.mem_cons.1 ha with rfl | ha
    · exact ⟨_, List.mem_cons_self .., hab⟩
    · obtain ⟨b, hb, hR⟩ := ih ha
      exact ⟨b, List.mem_cons_of_mem _ hb, hR⟩

theorem Forall₂_of_common {α β γ : Type} {R : α → β → Prop} {S : α → γ → Prop}
    {T : β → γ → Prop} (hRS : ∀ a b c, R a b → S a c → T b c) :
    ∀ {l₀ : List α} {l₁ : List β} {l₂ : List γ},
      List.Forall₂ R l₀ l₁ → List.Forall₂ S l₀ l₂ → List.Forall₂ T l₁ l₂
  | _, _, _, .nil, .nil => .nil
  | _, _, _, .cons hab h₁, .cons hac h₂ => .cons (hRS _ _ _ hab hac) (Forall₂_of_common hRS h₁ h₂)

section Row

variable {m : Mapping} {ticks : Bool} {x : List Value}

theorem filterMap_slots_of_entries {β : Type}
    (hdistinct : m.columns.Pairwise fun a b => ¬ SameUpToAsciiCase a.name b.name)
    (f : Column → β) {P : Column → String × Datum → Prop} :
    ∀ {cols : List Column} {es : List (String × Datum)}, (∀ c ∈ cols, c ∈ m.columns) →
      List.Forall₂ (fun col e => SameUpToAsciiCase e.1 col.name ∧ P col e) cols es →
      es.filterMap (fun e => (columnSlot m e.1).map f) = cols.map f
  | _, _, _, .nil => rfl
  | col :: cols, e :: es, hsub, .cons hce hrest => by
    rw [List.filterMap_cons, columnSlot_of_same hdistinct (hsub col (List.mem_cons_self ..)) hce.1,
      Option.map_some, List.map_cons,
      filterMap_slots_of_entries hdistinct f (fun c hc => hsub c (List.mem_cons_of_mem _ hc)) hrest]

/-- The fields a bound row sets: each mapped column's position, with what its entry reads
back as, in any order. -/
theorem assignments_perm
    (hdistinct : m.columns.Pairwise fun a b => ¬ SameUpToAsciiCase a.name b.name)
    {P : Column → String × Datum → Prop} {row entries extras : List (String × Datum)}
    (hperm : row.Perm (entries ++ extras))
    (hent : List.Forall₂ (fun col e => SameUpToAsciiCase e.1 col.name ∧ P col e) m.columns entries)
    (hext : ∀ e ∈ extras, ∀ col ∈ m.columns, ¬ SameUpToAsciiCase e.1 col.name)
    (f : Column → Nat × Value) :
    (row.filterMap fun e => (columnSlot m e.1).map f).Perm (m.columns.map f) := by
  have hextras : extras.filterMap (fun e => (columnSlot m e.1).map f) = [] :=
    List.filterMap_eq_nil_iff.2 fun e he => by
      rw [columnSlot_of_unmapped (hext e he), Option.map_none]
  have h := hperm.filterMap (fun e => (columnSlot m e.1).map f)
  rwa [List.filterMap_append, hextras, List.append_nil,
    filterMap_slots_of_entries hdistinct f (fun _ h => h) hent] at h

end Row

theorem Forall₂_map_eq {α β γ : Type} {R : α → β → Prop} {l₁ : List α} {l₂ : List β}
    {f : α → γ} {g : β → γ} (h : List.Forall₂ R l₁ l₂) (hR : ∀ a b, R a b → g b = f a) :
    l₂.map g = l₁.map f := by
  induction h with
  | nil => rfl
  | cons hab _ ih => rw [List.map_cons, List.map_cons, hR _ _ hab, ih]

section Read

variable {typeName : String} {rt : RecordType} {flags : CreateFlags} {m : Mapping}

theorem build_positions_nodup (hm : Mapping.build typeName rt.table flags = .ok m)
    (f : Column → Value) : ((m.columns.map fun col => (col.position, f col)).map (·.1)).Nodup := by
  have hpos : m.columns.map (·.position) = rt.table.mappedEntries.map (·.1) :=
    Forall₂_map_eq (build_columns hm) fun _ _ h => h.1
  rw [List.map_map]
  exact hpos ▸ mappedEntries_positions_nodup rt.table

/-- Setting each mapped field of the blank record to a value chosen by its field and position
gives that value at every mapped position and the default at every ignored one. -/
theorem setAll_blank_mapped (hm : Mapping.build typeName rt.table flags = .ok m)
    (g : FieldType → Nat → Value) :
    setAll rt.blank (m.columns.map fun col => (col.position, g col.field col.position)) =
      rt.table.columns.zipIdx.map fun (d, j) =>
        if d.has .ignore then d.field.default else g d.field j := by
  have hcols := build_columns hm
  apply List.ext_getElem?
  intro j
  rw [List.getElem?_map, List.getElem?_zipIdx]
  cases hj : rt.table.columns[j]? with
  | none =>
    refine List.getElem?_eq_none ?_
    rw [length_setAll, RecordType.blank, List.length_map]
    exact List.getElem?_eq_none_iff.1 hj
  | some d =>
    have hlt : j < rt.blank.length := by
      rw [RecordType.blank, List.length_map]
      exact (List.getElem?_eq_some_iff.1 hj).1
    simp only [Option.map_some, Nat.zero_add]
    cases hign : d.has .ignore with
    | true =>
      -- no column of the build sits at an ignored position
      have hnone : ∀ q ∈ m.columns.map (fun col => (col.position, g col.field col.position)),
          q.1 ≠ j := by
        intro q hq hqj
        obtain ⟨col, hcol, rfl⟩ := List.mem_map.1 hq
        obtain ⟨⟨i, d'⟩, hp, hpos, -⟩ := Forall₂_exists_left hcols hcol
        obtain ⟨hi, hign'⟩ := mem_mappedEntries.1 hp
        have hij : i = j := hpos.symm.trans hqj
        rw [hij, hj, Option.some.injEq] at hi
        rw [← hi, hign] at hign'
        cases hign'
      rw [getElem?_setAll_of_not_mem hnone, RecordType.blank, List.getElem?_map, hj,
        Option.map_some, if_pos rfl]
    | false =>
      obtain ⟨col, hcol, hpos, hfield, -⟩ :=
        Forall₂_exists_right hcols (mem_mappedEntries.2 ⟨hj, hign⟩)
      have hmem :
          (j, g d.field j) ∈ m.columns.map fun col => (col.position, g col.field col.position) :=
        List.mem_map.2 ⟨col, hcol, by rw [hpos, hfield]⟩
      rw [getElem?_setAll_of_mem (build_positions_nodup hm _) hmem hlt, if_neg (by simp)]

variable {ticks : Bool} {x : List Value}

/-- A row bound from the declaration's fields is bound from the build's columns. -/
theorem boundRow_columns (hm : Mapping.build typeName rt.table flags = .ok m)
    {row : List (String × Datum)} (hrow : BoundRow ticks rt.table x row) :
    ∃ entries extras, row.Perm (entries ++ extras) ∧
      List.Forall₂ (fun col e => SameUpToAsciiCase e.1 col.name ∧
        bindValue ticks (col.valueOf x) = .ok e.2) m.columns entries ∧
      ∀ e ∈ extras, ∀ col ∈ m.columns, ¬ SameUpToAsciiCase e.1 col.name := by
  obtain ⟨entries, extras, hperm, hent, hext⟩ := hrow
  refine ⟨entries, extras, hperm, ?_, ?_⟩
  · refine Forall₂_of_common ?_ (build_columns hm) hent
    rintro p col e ⟨hpos, -, hname, -⟩ ⟨hsame, hbind⟩
    rw [hname, Column.valueOf, hpos]
    exact ⟨hsame, hbind⟩
  · intro e he col hcol
    obtain ⟨p, hp, -, -, hname, -⟩ := Forall₂_exists_left (build_columns hm) hcol
    rw [hname]
    exact hext e he p hp

theorem holds_columns (hm : Mapping.build typeName rt.table flags = .ok m)
    (hx : ∀ p ∈ rt.table.mappedEntries, p.2.field.Holds (x.getD p.1 .null)) :
    ∀ col ∈ m.columns, col.field.Holds (col.valueOf x) := by
  intro col hcol
  obtain ⟨p, hp, hpos, hfield, -⟩ := Forall₂_exists_left (build_columns hm) hcol
  rw [hfield, Column.valueOf, hpos]
  exact hx p hp

/-- Each result column of a bound row that finds a mapped column reads back as the column's
value, normalized for its field. -/
theorem fill_of_boundRow (hm : Mapping.build typeName rt.table flags = .ok m)
    (hx : ∀ col ∈ m.columns, col.field.Holds (col.valueOf x))
    {row entries extras : List (String × Datum)} (hperm : row.Perm (entries ++ extras))
    (hent : List.Forall₂ (fun col e => SameUpToAsciiCase e.1 col.name ∧
      bindValue ticks (col.valueOf x) = .ok e.2) m.columns entries)
    (hext : ∀ e ∈ extras, ∀ col ∈ m.columns, ¬ SameUpToAsciiCase e.1 col.name) :
    ∀ col d, (some col, d) ∈ row.map (fun e => (columnSlot m e.1, e.2)) →
      (readColumn d col.dataType >>= col.field.accept) =
        .ok (col.field.normalize ticks (col.valueOf x)) := by
  intro col d hmem
  obtain ⟨e, he, hslot⟩ := List.mem_map.1 hmem
  rw [Prod.mk.injEq] at hslot
  obtain ⟨hslot, rfl⟩ := hslot
  rcases List.mem_append.1 (hperm.mem_iff.1 he) with he | he
  · obtain ⟨col', hcol', hsame, hbind⟩ := Forall₂_exists_left hent he
    rw [columnSlot_of_same (build_names_distinct hm) hcol' hsame, Option.some.injEq] at hslot
    subst hslot
    obtain ⟨p, -, -, hfield, -, htype⟩ := Forall₂_exists_left (build_columns hm) hcol'
    rw [htype, ← hfield]
    exact readColumn_bindValue (hx col' hcol') hbind
  · rw [columnSlot_of_unmapped (hext e he)] at hslot
    cases hslot

/-- A record bound to a row and read back from it is the record again: every mapped field
holds its value, with times and intervals at the precision the binding stores and a NaN as the
null it is stored as, and every ignored field holds its default. The row may spell its column
names in any case, list them in any order and carry columns the mapping does not know. -/
theorem materialize_boundRow (hm : Mapping.build typeName rt.table flags = .ok m)
    (hx : ∀ p ∈ rt.table.mappedEntries, p.2.field.Holds (x.getD p.1 .null))
    {row : List (String × Datum)} (hrow : BoundRow ticks rt.table x row) :
    Db.materialize rt (Db.columnSlots m (row.map (·.1))) (row.map (·.2)) =
      .ok (rt.table.columns.zipIdx.map fun (d, j) =>
        if d.has .ignore then d.field.default else d.field.normalize ticks (x.getD j .null)) := by
  obtain ⟨entries, extras, hperm, hent, hext⟩ := boundRow_columns hm hrow
  have hzip : (Db.columnSlots m (row.map (·.1))).zip (row.map (·.2)) =
      row.map fun e => (columnSlot m e.1, e.2) := by
    rw [columnSlots_eq, List.map_map, List.zip_map']
    rfl
  rw [materialize_eq, hzip,
    foldlM_fillRecord (fun col => col.field.normalize ticks (col.valueOf x)) _ _
      (fill_of_boundRow hm (holds_columns hm hx) hperm hent hext),
    List.filterMap_map]
  -- the fields are set in the row's order; any order gives the record in column order
  have hsets := assignments_perm (build_names_distinct hm) hperm hent hext
    fun col => (col.position, col.field.normalize ticks (col.valueOf x))
  congr 1
  exact (setAll_perm hsets (build_positions_nodup hm _) _).trans
    (setAll_blank_mapped hm fun f j => f.normalize ticks (x.getD j .null))

end Read

/-- A record type of an integer key, a flag and an ignored note. -/
def itemType : RecordType :=
  { id := 0, name := "Item", table :=
    { name := "item", columns :=
      [{ property := "Id", field := ⟨.int .int64, false⟩ },
       { property := "Active", field := ⟨.bool, false⟩ },
       { property := "Note", constraints := [.ignore], field := ⟨.string, true⟩ }] } }

/-- An item read back from a row that spells its column names in another case and order and
carries a column the mapping does not know; the note keeps its default. -/
theorem materialize_item :
    ∃ m, Mapping.build "Item" itemType.table CreateFlags.none = .ok m ∧
      Db.materialize itemType (Db.columnSlots m ["active", "ID", "Extra"])
        [.integer 1, .integer 7, .integer 3] = .ok [.int 7, .bool true, .null] := by
  refine ⟨_, rfl, materialize_boundRow
    (show Mapping.build "Item" itemType.table CreateFlags.none = _ from rfl)
    (show ∀ p ∈ itemType.table.mappedEntries,
      p.2.field.Holds ([.int 7, .bool true, .text "draft"].getD p.1 .null) from ?_)
    (show BoundRow true itemType.table [.int 7, .bool true, .text "draft"]
      [("active", .integer 1), ("ID", .integer 7), ("Extra", .integer 3)] from
      ⟨[("ID", .integer 7), ("active", .integer 1)], [("Extra", .integer 3)], .swap _ _ _,
        .cons ⟨by decide, rfl⟩ (.cons ⟨by decide, rfl⟩ .nil), ?_⟩)⟩
  · intro p hp
    simp [itemType, TableDef.mappedEntries] at hp
    rcases hp with ⟨rfl | rfl | rfl, hign⟩
    · exact Or.inr (.int rfl rfl)
    · exact Or.inr (.bool true)
    · cases hign
  · intro e he p hp
    rw [List.mem_singleton] at he
    subst he
    simp [itemType, TableDef.mappedEntries] at hp
    rcases hp with ⟨rfl | rfl | rfl, -⟩ <;> decide

end RecordMap
