import RecordMap.Schema.Mapping
import Mathlib.Data.List.Forall2
import Mathlib.Data.Nat.Bitwise

/-!
# Which declarations build a mapping

A table declaration builds a mapping exactly when it is well formed under the creation flags:
every mapped field (a field that is not ignored) has a type the codec knows, a column that
auto-increments is the key and holds integers, at most one column is the key, and no two
storage names are equal up to ASCII case. Any other declaration fails with a schema error.

The facts of each column are those the rules derive from its own constraints, the flags, and
whether any mapped field declares the key (`ColumnDef.facts`). On success the mapping's
columns are the mapped fields in declaration order, each with exactly these facts
(`build_accepts_exactly_wellFormed`).

The proof follows `Mapping.build`: each field is resolved on its own (`resolveColumn_ok_iff`,
`resolveColumn_facts`), the resolution of the fields succeeds when every one of them does
(`mapM_ok_iff`), and the two checks on the whole list read the key count and the storage
names off the resolved facts.
-/

namespace RecordMap

/-! ## Resolving a list, one element at a time -/

section MapM

variable {ε α β : Type} {f : α → Except ε β}

theorem mapM_ok_forall₂ {l : List α} {r : List β} (h : l.mapM f = .ok r) :
    List.Forall₂ (fun a b => f a = .ok b) l r := by
  induction l generalizing r with
  | nil =>
    simp only [List.mapM_nil] at h
    cases h
    exact .nil
  | cons a l ih =>
    simp only [List.mapM_cons] at h
    cases ha : f a with
    | error e => simp [ha, bind, Except.bind] at h
    | ok b =>
      cases hl : l.mapM f with
      | error e => simp [ha, hl, bind, Except.bind] at h
      | ok bs =>
        simp only [ha, hl, bind, Except.bind, pure, Except.pure, Except.ok.injEq] at h
        subst h
        exact .cons ha (ih hl)

/-- Resolving every element succeeds exactly when each one does. -/
theorem mapM_ok_iff {l : List α} :
    (∃ r, l.mapM f = .ok r) ↔ ∀ a ∈ l, ∃ b, f a = .ok b := by
  induction l with
  | nil => simp [pure, Except.pure]
  | cons a l ih =>
    simp only [List.mapM_cons, List.mem_cons, forall_eq_or_imp]
    constructor
    · rintro ⟨r, h⟩
      cases ha : f a with
      | error e => simp [ha, bind, Except.bind] at h
      | ok b =>
        cases hl : l.mapM f with
        | error e => simp [ha, hl, bind, Except.bind] at h
        | ok bs => exact ⟨⟨b, rfl⟩, ih.1 ⟨bs, hl⟩⟩
    · rintro ⟨⟨b, ha⟩, hl⟩
      obtain ⟨bs, hbs⟩ := ih.2 hl
      exact ⟨b :: bs, by simp [ha, hbs, bind, Except.bind, pure, Except.pure]⟩

/-- A failed resolution is the failure of one of the elements. -/
theorem mapM_error {l : List α} {e : ε} (h : l.mapM f = .error e) : ∃ a ∈ l, f a = .error e := by
  induction l with
  | nil => simp [pure, Except.pure] at h
  | cons a l ih =>
    simp only [List.mapM_cons] at h
    cases ha : f a with
    | error e' =>
      simp only [ha, bind, Except.bind, Except.error.injEq] at h
      exact ⟨a, by simp, h ▸ ha⟩
    | ok b =>
      cases hl : l.mapM f with
      | error e' =>
        simp only [ha, hl, bind, Except.bind, Except.error.injEq] at h
        obtain ⟨a', ha', hf⟩ := ih (h ▸ hl)
        exact ⟨a', by simp [ha'], hf⟩
      | ok bs => simp [ha, hl, bind, Except.bind, pure, Except.pure] at h

end MapM

/-! ## The rules, stated on the declaration -/

/-- Two texts that are equal once their ASCII capitals are lowered. -/
def SameUpToAsciiCase (a b : String) : Prop :=
  a.toList.map Char.toLower = b.toList.map Char.toLower

instance (a b : String) : Decidable (SameUpToAsciiCase a b) :=
  inferInstanceAs (Decidable (_ = _))

@[simp] theorem eqIgnoreAsciiCase_eq_decide (a b : String) :
    eqIgnoreAsciiCase a b = decide (SameUpToAsciiCase a b) := by
  simp only [eqIgnoreAsciiCase, SameUpToAsciiCase]
  exact Bool.beq_eq_decide_eq _ _

theorem SameUpToAsciiCase.symm {a b : String} (h : SameUpToAsciiCase a b) :
    SameUpToAsciiCase b a :=
  Eq.symm h

theorem CreateFlags.contains_two_pow (flags : CreateFlags) (i : Nat) :
    flags.contains (2 ^ i) = flags.bits.testBit i := by
  have h : flags.bits &&& 2 ^ i = 2 ^ i * (flags.bits.testBit i).toNat := by
    rw [Nat.land_comm]
    exact Nat.two_pow_and _ _
  simp only [CreateFlags.contains, h]
  cases flags.bits.testBit i <;> simp [Nat.ne_of_lt (Nat.two_pow_pos i)]

@[simp] theorem CreateFlags.contains_implicitPk (flags : CreateFlags) :
    flags.contains CreateFlags.implicitPk = flags.bits.testBit 0 :=
  flags.contains_two_pow 0

@[simp] theorem CreateFlags.contains_autoIncPk (flags : CreateFlags) :
    flags.contains CreateFlags.autoIncPk = flags.bits.testBit 2 :=
  flags.contains_two_pow 2

/-- The fields of a declaration that are mapped: those not ignored, in declaration order. -/
def TableDef.mappedFields (t : TableDef) : List ColumnDef :=
  t.columns.filter fun d => !d.has .ignore

/-- What a mapping says of a column: its names and type, whether it is the key, whether it
auto-increments or is filled with a fresh identifier, and whether it may hold null. -/
structure ColumnFacts where
  property : String
  name : String
  dataType : DataType
  isPk : Bool
  isAutoInc : Bool
  isAutoGuid : Bool
  nullable : Bool
  deriving DecidableEq, Repr

/-- The facts a mapped column carries. -/
def Column.facts (c : Column) : ColumnFacts :=
  ⟨c.property, c.name, c.dataType, c.isPk, c.isAutoInc, c.isAutoGuid, c.nullable⟩

/-- The facts the rules give a declared column, given whether some mapped field declares the
key: the key when declared so, or by the implicit-key flag when no field is declared the key
and the property is `Id` up to ASCII case; auto-incrementing when declared so, or as an integer
key under the auto-increment flag, where an identifier is filled instead of counted. -/
def ColumnDef.factsWith (flags : CreateFlags) (explicitKey : Bool) (d : ColumnDef) : ColumnFacts :=
  let isPk := d.has .primaryKey ||
    (!explicitKey && flags.bits.testBit 0 && decide (SameUpToAsciiCase d.property "Id"))
  let isAuto := d.has .autoIncrement ||
    (isPk && flags.bits.testBit 2 && d.field.dataType.isInteger)
  let isAutoGuid := isAuto && d.field.dataType == .uuid
  { property := d.property, name := d.name, dataType := d.field.dataType, isPk,
    isAutoInc := isAuto && !isAutoGuid, isAutoGuid, nullable := !(isPk || d.has .notNull) }

/-- The facts of a declared column among the mapped fields `G`. -/
def ColumnDef.facts (flags : CreateFlags) (G : List ColumnDef) (d : ColumnDef) : ColumnFacts :=
  d.factsWith flags (G.any (·.has .primaryKey))

/-- A column the rules accept on its own: a known type, and an auto-incrementing column that is
an integer key. -/
structure ColumnFacts.Admissible (c : ColumnFacts) : Prop where
  supported : c.dataType.isSupported = true
  autoIncKeyed : c.isAutoInc = true → c.isPk = true
  autoIncInteger : c.isAutoInc = true → c.dataType.isInteger = true

instance (c : ColumnFacts) : Decidable c.Admissible :=
  decidable_of_iff (c.dataType.isSupported = true ∧ (c.isAutoInc = true → c.isPk = true) ∧
      (c.isAutoInc = true → c.dataType.isInteger = true))
    ⟨fun ⟨a, b, c⟩ => ⟨a, b, c⟩, fun ⟨a, b, c⟩ => ⟨a, b, c⟩⟩

/-- A declaration that builds under the flags: every mapped column is admissible, at most one
is the key, and the storage names are pairwise distinct up to ASCII case. -/
structure WellFormed (flags : CreateFlags) (t : TableDef) : Prop where
  admissible : ∀ d ∈ t.mappedFields, (d.facts flags t.mappedFields).Admissible
  atMostOneKey : (t.mappedFields.filter fun d => (d.facts flags t.mappedFields).isPk).length ≤ 1
  distinctNames : t.mappedFields.Pairwise fun a b => ¬ SameUpToAsciiCase a.name b.name

instance (flags : CreateFlags) (t : TableDef) : Decidable (WellFormed flags t) :=
  decidable_of_iff ((∀ d ∈ t.mappedFields, (d.facts flags t.mappedFields).Admissible) ∧
      (t.mappedFields.filter fun d => (d.facts flags t.mappedFields).isPk).length ≤ 1 ∧
      t.mappedFields.Pairwise fun a b => ¬ SameUpToAsciiCase a.name b.name)
    ⟨fun ⟨a, b, c⟩ => ⟨a, b, c⟩, fun ⟨a, b, c⟩ => ⟨a, b, c⟩⟩

/-! ## One column -/

theorem ColumnFacts.admissible_iff_checks (c : ColumnFacts) :
    c.Admissible ↔ ¬ (!c.dataType.isSupported) = true ∧ ¬ (c.isAutoInc && !c.isPk) = true ∧
      ¬ (c.isAutoInc && !c.dataType.isInteger) = true := by
  constructor
  · rintro ⟨hsup, hkey, hint⟩
    refine ⟨by simp [hsup], ?_, ?_⟩
    · cases h : c.isAutoInc <;> simp [hkey, h]
    · cases h : c.isAutoInc <;> simp [hint, h]
  · rintro ⟨hsup, hkey, hint⟩
    refine ⟨by simpa using hsup, fun h => by simpa [h] using hkey, fun h => by simpa [h] using hint⟩

section Resolve

variable {table : String} {flags : CreateFlags} {explicitKey : Bool} {i : Nat} {d : ColumnDef}

/-- A resolved column carries the facts the rules derive. -/
theorem resolveColumn_facts {c : Column}
    (h : resolveColumn table flags explicitKey (i, d) = .ok c) :
    c.facts = d.factsWith flags explicitKey := by
  unfold resolveColumn at h
  simp only [CreateFlags.contains_implicitPk, CreateFlags.contains_autoIncPk,
    eqIgnoreAsciiCase_eq_decide, implicitPkName] at h
  split at h
  · cases h
  · split at h
    · cases h
    · split at h
      · cases h
      · cases h
        rfl

/-- A column resolves exactly when its facts are admissible. -/
theorem resolveColumn_ok_iff :
    (∃ c, resolveColumn table flags explicitKey (i, d) = .ok c) ↔
      (d.factsWith flags explicitKey).Admissible := by
  rw [ColumnFacts.admissible_iff_checks]
  unfold resolveColumn
  simp only [CreateFlags.contains_implicitPk, CreateFlags.contains_autoIncPk,
    eqIgnoreAsciiCase_eq_decide, implicitPkName]
  -- the checks of the code are those of the facts, up to unfolding `factsWith`
  constructor
  · rintro ⟨c, h⟩
    split at h
    · cases h
    rename_i hsup
    split at h
    · cases h
    rename_i hkey
    split at h
    · cases h
    rename_i hint
    exact ⟨hsup, hkey, hint⟩
  · rintro ⟨hsup, hkey, hint⟩
    split
    · exact absurd ‹_› hsup
    split
    · exact absurd ‹_› hkey
    split
    · exact absurd ‹_› hint
    exact ⟨_, rfl⟩

/-- A column that does not resolve fails with a schema error. -/
theorem resolveColumn_error {e : Error}
    (h : resolveColumn table flags explicitKey (i, d) = .error e) : ∃ msg, e = .schema msg := by
  unfold resolveColumn at h
  simp only [CreateFlags.contains_implicitPk, CreateFlags.contains_autoIncPk,
    eqIgnoreAsciiCase_eq_decide, implicitPkName] at h
  split at h
  · cases h
    exact ⟨_, rfl⟩
  · split at h
    · cases h
      exact ⟨_, rfl⟩
    · split at h
      · cases h
        exact ⟨_, rfl⟩
      · cases h

end Resolve

/-! ## The checks on the whole list -/

/-- No storage name repeats an earlier one, or one already seen, up to ASCII case. -/
theorem firstRepeatedName_eq_none_iff (seen names : List String) :
    firstRepeatedName seen names = none ↔
      (∀ n ∈ names, ∀ s ∈ seen, ¬ SameUpToAsciiCase s n) ∧
        names.Pairwise fun a b => ¬ SameUpToAsciiCase a b := by
  induction names generalizing seen with
  | nil => simp [firstRepeatedName]
  | cons n rest ih =>
    by_cases hseen : seen.any (eqIgnoreAsciiCase · n) = true
    · simp only [firstRepeatedName, hseen, if_true, reduceCtorEq, false_iff]
      obtain ⟨s, hs, hsn⟩ := List.any_eq_true.1 hseen
      exact fun h => h.1 n (by simp) s hs (by simpa using hsn)
    · simp only [firstRepeatedName, hseen, Bool.false_eq_true, if_false, ih]
      simp only [List.any_eq_true, eqIgnoreAsciiCase_eq_decide, decide_eq_true_eq, not_exists,
        not_and] at hseen
      simp only [List.mem_append, List.mem_cons, List.not_mem_nil, or_false, List.pairwise_cons]
      constructor
      · rintro ⟨hfresh, hpair⟩
        refine ⟨?_, fun m hm h => hfresh m hm n (.inr rfl) h, hpair⟩
        rintro m (rfl | hm) s hs
        · exact hseen s hs
        · exact hfresh m hm s (.inl hs)
      · rintro ⟨hfresh, hnew, hpair⟩
        refine ⟨?_, hpair⟩
        rintro m hm s (hs | rfl)
        · exact hfresh m (.inr hm) s hs
        · exact hnew m hm

theorem keyIndices_length (columns : List Column) :
    ((columns.zipIdx.filter fun (c, _) => c.isPk).map (·.2)).length =
      (columns.filter (·.isPk)).length := by
  have h := List.zipIdx_map_fst 0 columns
  conv => rhs; rw [← h]
  rw [List.length_map, List.filter_map, List.length_map]
  rfl

theorem build_fields_snd (t : TableDef) :
    ((t.columns.zipIdx.map fun (c, i) => (i, c)).filter fun (_, c) => !c.has .ignore).map (·.2) =
      t.mappedFields := by
  simp only [TableDef.mappedFields, List.filter_map, List.map_map, Function.comp_def]
  conv => rhs; rw [← List.zipIdx_map_fst 0 t.columns]
  rw [List.filter_map]
  rfl

/-! ## The whole declaration -/

section Build

variable {typeName : String} {t : TableDef} {flags : CreateFlags}

/-- The resolution of the mapped fields, as `build` runs it. -/
abbrev resolvedFields (t : TableDef) (flags : CreateFlags) : Outcome (List Column) :=
  let fields := (t.columns.zipIdx.map fun (c, i) => (i, c)).filter fun (_, c) => !c.has .ignore
  fields.mapM (resolveColumn t.name flags (fields.any fun (_, c) => c.has .primaryKey))

theorem explicitKey_eq (t : TableDef) :
    (((t.columns.zipIdx.map fun (c, i) => (i, c)).filter fun (_, c) => !c.has .ignore).any
      fun (_, c) => c.has .primaryKey) = t.mappedFields.any (·.has .primaryKey) := by
  rw [← build_fields_snd t, List.any_map]
  rfl

/-- A successful build resolves the mapped fields into its columns, with one key at most and
distinct storage names. -/
theorem build_ok_columns {m : Mapping} (h : Mapping.build typeName t flags = .ok m) :
    resolvedFields t flags = .ok m.columns ∧ (m.columns.filter (·.isPk)).length ≤ 1 ∧
      firstRepeatedName [] (m.columns.map (·.name)) = none := by
  unfold Mapping.build at h
  cases hr : resolvedFields t flags with
  | error e =>
    simp only [resolvedFields] at hr
    simp only [hr, bind, Except.bind] at h
    cases h
  | ok cs =>
    simp only [resolvedFields] at hr
    simp only [hr, bind, Except.bind] at h
    split at h
    · cases h
    · rename_i hkeys
      split at h
      · cases h
      · rename_i hnames
        cases h
        refine ⟨rfl, ?_, ?_⟩
        · rw [keyIndices_length] at hkeys
          dsimp only
          omega
        · cases hn : firstRepeatedName [] (cs.map (·.name)) with
          | none => rfl
          | some n => exact absurd hn (hnames n)

theorem build_ok_of {cs : List Column} (hr : resolvedFields t flags = .ok cs)
    (hkeys : (cs.filter (·.isPk)).length ≤ 1) (hnames : firstRepeatedName [] (cs.map (·.name)) = none) :
    ∃ m, Mapping.build typeName t flags = .ok m := by
  unfold Mapping.build
  simp only [resolvedFields] at hr
  simp only [hr, bind, Except.bind, keyIndices_length, hnames]
  rw [if_neg (by omega)]
  exact ⟨_, rfl⟩

/-- A failed build is a schema error. -/
theorem build_error {e : Error} (h : Mapping.build typeName t flags = .error e) :
    ∃ msg, e = .schema msg := by
  unfold Mapping.build at h
  cases hr : resolvedFields t flags with
  | error e' =>
    simp only [resolvedFields] at hr
    simp only [hr, bind, Except.bind, Except.error.injEq] at h
    obtain ⟨_, _, hf⟩ := mapM_error hr
    exact h ▸ resolveColumn_error hf
  | ok cs =>
    simp only [resolvedFields] at hr
    simp only [hr, bind, Except.bind] at h
    split at h
    · cases h
      exact ⟨_, rfl⟩
    · split at h
      · cases h
        exact ⟨_, rfl⟩
      · cases h

theorem resolved_facts {table : String} {explicitKey : Bool} {fs : List (Nat × ColumnDef)}
    {cs : List Column}
    (h : List.Forall₂ (fun p c => resolveColumn table flags explicitKey p = .ok c) fs cs) :
    cs.map Column.facts = fs.map fun p => p.2.factsWith flags explicitKey := by
  induction h with
  | nil => rfl
  | cons hd _ ih =>
    rw [List.map_cons, List.map_cons, ih, resolveColumn_facts hd]

theorem resolvedFields_facts {cs : List Column} (hr : resolvedFields t flags = .ok cs) :
    cs.map Column.facts = t.mappedFields.map (·.facts flags t.mappedFields) := by
  have h := resolved_facts (mapM_ok_forall₂ hr)
  rw [explicitKey_eq] at h
  rw [h, ← build_fields_snd t, List.map_map]
  rfl

theorem resolvedFields_ok_iff :
    (∃ cs, resolvedFields t flags = .ok cs) ↔
      ∀ d ∈ t.mappedFields, (d.facts flags t.mappedFields).Admissible := by
  simp only [resolvedFields]
  rw [mapM_ok_iff, explicitKey_eq, ← build_fields_snd t]
  simp only [List.mem_map, forall_exists_index, and_imp, forall_apply_eq_imp_iff₂]
  constructor
  · intro h p hp
    exact resolveColumn_ok_iff.1 (h p hp)
  · intro h p hp
    exact resolveColumn_ok_iff.2 (h p hp)

/-- A build succeeds exactly on well-formed declarations, its columns are the mapped fields in
order with the facts the rules give them, and it fails with nothing but a schema error. -/
theorem build_accepts_exactly_wellFormed (typeName : String) (t : TableDef) (flags : CreateFlags) :
    ((∃ m, Mapping.build typeName t flags = .ok m) ↔ WellFormed flags t) ∧
    (∀ m, Mapping.build typeName t flags = .ok m →
      m.columns.map Column.facts = t.mappedFields.map (·.facts flags t.mappedFields)) ∧
    (∀ e, Mapping.build typeName t flags = .error e → ∃ msg, e = .schema msg) := by
  -- the key count and the names of the columns are read off their facts
  have hkeys : ∀ cs : List Column, cs.map Column.facts = t.mappedFields.map (·.facts flags t.mappedFields) →
      (cs.filter (·.isPk)).length =
        (t.mappedFields.filter fun d => (d.facts flags t.mappedFields).isPk).length := by
    intro cs hcs
    have h := congrArg (fun l => (l.filter (·.isPk)).length) hcs
    simpa [List.filter_map, Function.comp_def, Column.facts] using h
  have hnames : ∀ cs : List Column, cs.map Column.facts = t.mappedFields.map (·.facts flags t.mappedFields) →
      cs.map (·.name) = t.mappedFields.map (·.name) := by
    intro cs hcs
    have h := congrArg (List.map ColumnFacts.name) hcs
    simpa [Function.comp_def, Column.facts, ColumnDef.facts, ColumnDef.factsWith] using h
  refine ⟨⟨?_, ?_⟩, fun m h => ?_, fun e h => build_error h⟩
  · rintro ⟨m, h⟩
    obtain ⟨hr, hk, hn⟩ := build_ok_columns h
    have hf := resolvedFields_facts hr
    refine ⟨resolvedFields_ok_iff.1 ⟨_, hr⟩, hkeys _ hf ▸ hk, ?_⟩
    rw [hnames _ hf, firstRepeatedName_eq_none_iff] at hn
    exact List.pairwise_map.1 hn.2
  · intro hw
    obtain ⟨cs, hr⟩ := resolvedFields_ok_iff.2 hw.admissible
    have hf := resolvedFields_facts hr
    refine build_ok_of hr (hkeys _ hf ▸ hw.atMostOneKey) ?_
    rw [hnames _ hf, firstRepeatedName_eq_none_iff]
    exact ⟨by simp, List.pairwise_map.2 hw.distinctNames⟩
  · exact resolvedFields_facts (build_ok_columns h).1

end Build

end RecordMap
