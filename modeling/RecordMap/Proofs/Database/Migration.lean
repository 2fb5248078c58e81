import RecordMap.Proofs.Database.TableCreation
import RecordMap.Proofs.Database.Materialize
import RecordMap.Proofs.Sql.NoColumns

/-!
# Migration adds what is missing, once

On a table the engine lists columns for, a table creation adds one column for each mapped
column whose storage name the engine does not list up to ASCII case, with that column's
declaration, in mapping order, and no other column is touched; on a table the engine does not
know it creates the table with every column's declaration. Every declaration of a mapping
`build` accepts can be written (`build_sqlDecl_ok`).

The connection keeps the mapping it read through the whole run (`createTableWith_keeps_mapping`),
so a second creation right after reads the same mapping and plans, and the table as the engine
lists it then (`createTableWith_again`). When the engine lists what the first one found and
added, no column is missing and only the indexes are asked for again. A mapping without columns
never gets that far: the engine refuses a table without columns (`Engine.prepare_noColumns`).
-/

namespace RecordMap

open RecordMap.Text

/-! ## Declarations -/

theorem DataType.sqlType_isSome {t : DataType} (h : t.isSupported = true) (ticks : Bool)
    (maxLength : Option Nat) : ∃ s, t.sqlType ticks maxLength = some s := by
  cases t <;> simp_all [DataType.sqlType, DataType.isSupported]

theorem Column.sqlDecl_ok {col : Column} (h : col.dataType.isSupported = true) (ticks : Bool) :
    ∃ d, col.sqlDecl ticks = .ok d := by
  obtain ⟨s, hs⟩ := DataType.sqlType_isSome h ticks col.maxLength
  unfold Column.sqlDecl
  rw [hs]
  cases col.isAutoInc <;> exact ⟨_, rfl⟩

theorem build_sqlDecl_ok {typeName : String} {t : TableDef} {flags : CreateFlags} {m : Mapping}
    (h : Mapping.build typeName t flags = .ok m) (ticks : Bool) :
    ∀ col ∈ m.columns, ∃ d, col.sqlDecl ticks = .ok d := by
  intro col hcol
  obtain ⟨⟨i, d⟩, -, hres⟩ := Forall₂_exists_left (mapM_ok_forall₂ (build_ok_columns h).1) hcol
  have hadm := resolveColumn_ok_iff.1 ⟨col, hres⟩
  rw [← resolveColumn_facts hres] at hadm
  exact Column.sqlDecl_ok hadm.supported ticks

theorem mapM_sqlDecl_ok {cols : List Column} {ticks : Bool}
    (h : ∀ col ∈ cols, ∃ d, col.sqlDecl ticks = .ok d) :
    ∃ decls, cols.mapM (fun col => col.sqlDecl ticks) = .ok decls ∧
      List.Forall₂ (fun col d => col.sqlDecl ticks = .ok d) cols decls := by
  obtain ⟨decls, hdecls⟩ := mapM_ok_iff.2 h
  exact ⟨decls, hdecls, mapM_ok_forall₂ hdecls⟩

theorem map_sqlDecl_eq {cols : List Column} {decls : List String} {ticks : Bool}
    (h : List.Forall₂ (fun col d => col.sqlDecl ticks = .ok d) cols decls) (g : String → String) :
    cols.map (fun col => (col.sqlDecl ticks).map g) = decls.map fun d => .ok (g d) := by
  induction h with
  | nil => rfl
  | cons hd _ ih =>
    rw [List.map_cons, List.map_cons, hd, ih]
    rfl

/-! ## The table's statements -/

namespace Mapping

variable (m : Mapping) (ticks : Bool)

theorem missingColumns_eq_filter (existing : List ColumnInfo) :
    m.missingColumns existing =
      m.columns.filter fun col => ∀ i ∈ existing, ¬ SameUpToAsciiCase i.name col.name := by
  unfold missingColumns
  congr 1
  funext col
  rw [Bool.eq_iff_iff]
  simp

theorem tableStatements_migrate {existing : List ColumnInfo} (hne : existing ≠ [])
    (hdecl : ∀ col ∈ m.columns, ∃ d, col.sqlDecl ticks = .ok d) :
    ∃ decls, List.Forall₂ (fun col d => col.sqlDecl ticks = .ok d) (m.missingColumns existing) decls ∧
      m.tableStatements ticks existing = decls.map fun d => .ok (m.addColumnStatement d) := by
  have hmissing : ∀ col ∈ m.missingColumns existing, ∃ d, col.sqlDecl ticks = .ok d :=
    fun col hcol => hdecl col (List.mem_filter.1 hcol).1
  obtain ⟨decls, -, hdecls⟩ := mapM_sqlDecl_ok hmissing
  refine ⟨decls, hdecls, ?_⟩
  rw [tableStatements, if_neg (by simpa using hne)]
  exact map_sqlDecl_eq hdecls _

theorem tableStatements_create (hdecl : ∀ col ∈ m.columns, ∃ d, col.sqlDecl ticks = .ok d) :
    ∃ decls, List.Forall₂ (fun col d => col.sqlDecl ticks = .ok d) m.columns decls ∧
      m.tableStatements ticks [] = [.ok (m.createStatement decls)] := by
  obtain ⟨decls, hmap, hdecls⟩ := mapM_sqlDecl_ok hdecl
  refine ⟨decls, hdecls, ?_⟩
  simp only [tableStatements, List.isEmpty_nil, if_true, hmap]
  rfl

theorem tableStatements_of_listed {infos : List ColumnInfo} (hne : infos ≠ [])
    (hlisted : ∀ col ∈ m.columns, ∃ j ∈ infos, SameUpToAsciiCase j.name col.name) :
    m.tableStatements ticks infos = [] := by
  have hnone : m.missingColumns infos = [] := by
    rw [missingColumns_eq_filter, List.filter_eq_nil_iff]
    intro col hcol
    obtain ⟨j, hj, hsame⟩ := hlisted col hcol
    simpa using ⟨j, hj, hsame⟩
  rw [tableStatements, if_neg (by simpa using hne), hnone, List.map_nil]

end Mapping

/-- The columns a table had are listed by their names again, and the ones it lacked by the names
they were added under: then every mapped storage name is listed up to case. -/
theorem listed_of_kept_and_added {m : Mapping} {existing infos : List ColumnInfo}
    (hkept : ∀ i ∈ existing, ∃ j ∈ infos, j.name = i.name)
    (hadded : ∀ col ∈ m.columns, (∀ i ∈ existing, ¬ SameUpToAsciiCase i.name col.name) →
      ∃ j ∈ infos, j.name = col.name) :
    ∀ col ∈ m.columns, ∃ j ∈ infos, SameUpToAsciiCase j.name col.name := by
  intro col hcol
  by_cases h : ∃ i ∈ existing, SameUpToAsciiCase i.name col.name
  · obtain ⟨i, hi, hsame⟩ := h
    obtain ⟨j, hj, hji⟩ := hkept i hi
    exact ⟨j, hj, hji ▸ hsame⟩
  · push Not at h
    obtain ⟨j, hj, hjc⟩ := hadded col hcol h
    exact ⟨j, hj, hjc ▸ rfl⟩

/-! ## The mappings a connection keeps -/

/-- The kept mapping of a slot is in the catalog that looking it up returns. -/
theorem Catalog.getMapping_get? {cat cat' : Catalog} {slot : Nat} {typeName : String}
    {t : TableDef} {flags : CreateFlags} {e : CatalogEntry}
    (h : cat.getMapping slot typeName t flags = .ok (e, cat')) : cat'.get? slot = some e := by
  unfold Catalog.getMapping at h
  cases hc : cat.get? slot with
  | some e' =>
    rw [hc] at h
    cases h
    exact hc
  | none =>
    rw [hc] at h
    cases hb : Mapping.build typeName t flags with
    | error err =>
      rw [hb] at h
      cases h
    | ok m =>
      rw [hb] at h
      cases h
      simp only [Catalog.get?] at hc ⊢
      simp [List.find?_append, hc]

namespace Db

/-- The mappings connection `c` keeps. -/
def catalogOf (c : Nat) (w : World) : Catalog := (w.connections.getD c default).catalog

theorem Keeps.catalogs {α : Type} {p : Db α} (h : Keeps (·.connections) p) (c : Nat) :
    Keeps (Db.catalogOf c) p := by
  intro w
  have hw : (finalWorld (p w)).connections = w.connections := h w
  simp only [Db.catalogOf]
  rw [hw]

theorem catalogOf_modify {c : Nat} {f : Connection → Connection}
    (hf : ∀ k, (f k).catalog = k.catalog) (c' : Nat) (w : World) :
    catalogOf c' { w with connections := w.connections.modify c f } = catalogOf c' w := by
  simp only [catalogOf, Array.getD_eq_getD_getElem?, Array.getElem?_modify]
  split
  · cases w.connections[c']? with
    | none => rfl
    | some k => exact hf k
  · rfl

theorem Keeps.markCreated (c : Nat) (rt : RecordType) (c' : Nat) :
    Keeps (Db.catalogOf c') (markCreated c rt) := by
  intro w
  exact catalogOf_modify (fun k => by split <;> rfl) c' w

theorem modify_catalog_self (c : Nat) (w : World) :
    w.connections.modify c (fun k => { k with catalog := (w.connections.getD c default).catalog }) =
      w.connections := by
  apply Array.ext (Array.size_modify)
  intro i hi₁ hi₂
  rw [Array.getElem_modify]
  split
  · rename_i hci
    subst hci
    simp [Array.getD, hi₂]
  · rfl

/-- A mapping the connection keeps is read without changing the world. -/
theorem mappingWith_of_get? {c : Nat} {rt : RecordType} {flags : CreateFlags} {w : World}
    {e : CatalogEntry} (h : (catalogOf c w).get? rt.id = some e) :
    mappingWith c rt flags w = .ok e.mapping w := by
  have hget : (w.connections.getD c default).catalog.getMapping rt.id rt.name rt.table flags =
      .ok (e, (w.connections.getD c default).catalog) := by
    unfold Catalog.getMapping
    rw [show (w.connections.getD c default).catalog = catalogOf c w from rfl, h]
  have hof : ofOutcome (.ok (e, (w.connections.getD c default).catalog)) =
      (pure (e, (w.connections.getD c default).catalog) : Db _) := rfl
  have hmod : modifyConnection c
      (fun k => { k with catalog := (w.connections.getD c default).catalog }) w = .ok () w := by
    show EStateM.Result.ok () { w with connections := w.connections.modify c _ } = _
    rw [modify_catalog_self]
  unfold mappingWith
  rw [bind_of_eq_ok _ (connection_apply c w), hget, hof, pure_bind]
  dsimp only
  rw [bind_of_eq_ok _ hmod]
  rfl

/-- After reading a mapping on an open connection, the connection keeps it. -/
theorem mappingWith_keeps {c : Nat} {rt : RecordType} {flags : CreateFlags} {w w' : World}
    {m : Mapping} (h : mappingWith c rt flags w = .ok m w') (hc : c < w'.connections.size) :
    ∃ e, (catalogOf c w').get? rt.id = some e ∧ e.mapping = m := by
  unfold mappingWith at h
  obtain ⟨k, w₁, hk, h₁⟩ := bind_eq_ok h
  rw [connection_apply] at hk
  injection hk with hk hw₁
  obtain ⟨⟨e, cat⟩, w₂, hget, h₂⟩ := bind_eq_ok h₁
  obtain ⟨hget, hw₂⟩ := ofOutcome_eq_ok.1 hget
  obtain ⟨u, w₃, hmod, h₃⟩ := bind_eq_ok h₂
  injection hmod with _ hw₃
  injection h₃ with hm hw'
  subst hm hw' hw₃
  refine ⟨e, ?_, rfl⟩
  -- the connection is in range, so its catalog is the one the lookup returned
  simp only [Array.size_modify] at hc
  simp only [catalogOf, Array.getD_eq_getD_getElem?, Array.getElem?_modify, if_true,
    Array.getElem?_eq_getElem hc, Option.map_some, Option.getD_some]
  exact Catalog.getMapping_get? hget

theorem handle_connected {c : Nat} {w w' : World} {h : Nat} (hh : handle c w = .ok h w') :
    c < w.connections.size := by
  unfold handle at hh
  obtain ⟨k, w₁, hk, h₁⟩ := bind_eq_ok hh
  rw [connection_apply] at hk
  cases hk
  by_contra hc
  have hdef : w.connections.getD c default = default := by
    simp [Array.getD, hc]
  rw [hdef] at h₁
  cases h₁

theorem tableInfo_connected {c : Nat} {table : String} {w w' : World} {infos : List ColumnInfo}
    (h : tableInfo c table w = .ok infos w') : c < w.connections.size := by
  unfold tableInfo queryRows executeRows at h
  obtain ⟨rows, w₁, hrows, -⟩ := bind_eq_ok h
  obtain ⟨b, w₂, hprep, -⟩ := bind_eq_ok hrows
  unfold prepare at hprep
  obtain ⟨hd, w₃, hh, -⟩ := bind_eq_ok hprep
  exact handle_connected hh

/-! ## Runs -/

/-- Text that every engine refuses cannot be prepared. -/
theorem prepare_refused {c : Nat} {cmd : Command}
    (hrefuse : ∀ (e : Sql.Engine) (i : Nat), ∃ f, e.prepare i cmd.text = .error f) (w : World) :
    ∃ err w', prepare c cmd w = .error err w' := by
  unfold prepare
  cases hh : handle c w with
  | error err w' => exact ⟨err, w', bind_of_eq_error _ hh⟩
  | ok h w₁ =>
    obtain ⟨f, hf⟩ := hrefuse w₁.engine h
    rw [bind_of_eq_ok _ hh, bind_of_eq_ok _ (connection_apply c w₁),
      bind_of_eq_ok _ (show (MonadState.get : Db World) w₁ = .ok w₁ w₁ from rfl)]
    dsimp only
    rw [hf]
    exact ⟨_, _, rfl⟩

/-- The engine refuses to create a table without columns. -/
theorem execute_noColumns (c : Nat) (m : Mapping) (w : World) :
    ∃ err w', execute c (m.createStatement []) [] w = .error err w' := by
  have htext : (m.createStatement []).toList = "create table if not exists ".toList ++
      (quoteIdentifier m.tableName).toList ++ '(' :: ')' ::
        (if m.withoutRowid then " without rowid" else "").toList := by
    have hopen : "(".toList = ['('] := rfl
    have hclose : ")".toList = [')'] := rfl
    have hnone : ", ".intercalate ([] : List String) = "" := rfl
    unfold Mapping.createStatement
    rw [hnone]
    simp only [String.toList_append, hopen, hclose, String.toList_empty, List.append_assoc,
      List.nil_append, List.cons_append]
  have hrefuse : ∀ (e : Sql.Engine) (i : Nat),
      ∃ f, e.prepare i ((Command.mk (m.createStatement []) []).bindAll []).text = .error f := by
    intro e i
    obtain ⟨t, -, ht⟩ := Sql.Engine.prepare_noColumns e i htext
    exact ⟨_, ht⟩
  obtain ⟨err, w', hprep⟩ := prepare_refused hrefuse w
  unfold execute executeNonQuery
  exact ⟨err, w', bind_of_eq_error _ hprep⟩

/-- A creation that finds no table and maps no column fails. -/
theorem createTableWith_noColumns {c : Nat} {rt : RecordType} {flags : CreateFlags}
    {w w₀ : World} {ctx : CreationContext} (hctx : creationContext c rt flags w = .ok ctx w₀)
    (hex : ctx.existing = []) (hcols : ctx.mapping.columns = []) :
    ∃ err w', createTableWith c rt flags w = .error err w' := by
  have hstmts : ctx.statements = .ok (ctx.mapping.createStatement []) ::
      ctx.plans.map fun p => .ok (ctx.mapping.indexStatement p) := by
    simp only [CreationContext.statements, Mapping.tableStatements, hex, hcols]
    rfl
  obtain ⟨err, w', hexec⟩ := execute_noColumns c ctx.mapping w₀
  refine ⟨err, w', ?_⟩
  rw [createTableWith_of_context hctx, hstmts, issueAll]
  simp only [bind_assoc]
  exact bind_of_eq_ok _ (show (ofOutcome (.ok (ctx.mapping.createStatement [])) : Db String) w₀ =
    .ok _ w₀ from rfl) |>.trans (bind_of_eq_error _ hexec)

/-- After a successful creation the connection keeps the mapping the creation read. -/
theorem createTableWith_keeps_mapping {c : Nat} {rt : RecordType} {flags : CreateFlags}
    {w w₀ w₁ : World} {ctx : CreationContext} {r : CreateTableResult}
    (hctx : creationContext c rt flags w = .ok ctx w₀) (hrun : createTableWith c rt flags w = .ok r w₁) :
    ∃ e, (catalogOf c w₁).get? rt.id = some e ∧ e.mapping = ctx.mapping := by
  obtain ⟨wa, hm, -, -, hinfo⟩ := creationContext_eq_ok_iff.1 hctx
  obtain ⟨e, he, hem⟩ := mappingWith_keeps hm (tableInfo_connected hinfo)
  -- reading the table, issuing the statements and recording the table keep the catalog
  have hread : catalogOf c w₀ = catalogOf c wa := by
    have h := Keeps.catalogs (Keeps.tableInfo c ctx.mapping.tableName) c wa
    rw [hinfo] at h
    exact h
  have hrest : catalogOf c w₁ = catalogOf c w₀ := by
    have hkeeps : Keeps (catalogOf c) (do
        issueAll c ctx.statements
        markCreated c rt
        pure ctx.result) :=
      Keeps.bind (Keeps.catalogs (Keeps.issueAll c _) c) fun _ =>
        Keeps.bind (Keeps.markCreated c rt c) fun _ => Keeps.pure _
    have h := hkeeps w₀
    rw [← createTableWith_of_context hctx, hrun] at h
    exact h
  exact ⟨e, by rw [hrest, hread]; exact he, hem⟩

/-- A creation right after a successful one reads the same mapping and plans, and the table as
the engine lists it then. -/
theorem createTableWith_again {c : Nat} {rt : RecordType} {flags : CreateFlags}
    (flags' : CreateFlags) {w w₀ w₁ w₂ : World} {ctx : CreationContext} {r : CreateTableResult}
    {infos : List ColumnInfo}
    (hctx : creationContext c rt flags w = .ok ctx w₀) (hrun : createTableWith c rt flags w = .ok r w₁)
    (hinfo : tableInfo c ctx.mapping.tableName w₁ = .ok infos w₂) :
    createTableWith c rt flags' w₁ =
      (do
        issueAll c (CreationContext.statements
          ⟨ctx.mapping, ctx.plans, (w₁.connections.getD c default).ticks, infos⟩)
        markCreated c rt
        pure (CreationContext.result
          ⟨ctx.mapping, ctx.plans, (w₁.connections.getD c default).ticks, infos⟩)) w₂ := by
  obtain ⟨e, he, hem⟩ := createTableWith_keeps_mapping hctx hrun
  have hm : mappingWith c rt flags' w₁ = .ok ctx.mapping w₁ := hem ▸ mappingWith_of_get? he
  obtain ⟨-, -, hplans, -, -⟩ := creationContext_eq_ok_iff.1 hctx
  exact createTableWith_of_context (creationContext_eq_ok_iff.2 ⟨w₁, hm, hplans, rfl, hinfo⟩)

end Db

/-! ## Migration is additive and idempotent -/

/-- A table creation issues the table's statements, then the index statements, and says whether
it created the table. For a mapping `build` accepts, the table's statements are one added column
per mapped column whose storage name the engine lists under no name up to ASCII case, in mapping
order, with that column's declaration, or, when the engine lists no column, one statement that
creates the table with every column's declaration. When the engine then lists the columns it
listed before and the ones added by their names, every mapped storage name is listed, and a
second creation, with any flags, issues only the index statements and says the table was
migrated. -/
theorem createTableWith_migrates_additively (c : Nat) (rt : RecordType) (flags : CreateFlags) :
    Db.createTableWith c rt flags = (do
      let ctx ← Db.creationContext c rt flags
      Db.issueAll c (ctx.mapping.tableStatements ctx.ticks ctx.existing ++
        ctx.plans.map fun p => Except.ok (ctx.mapping.indexStatement p))
      Db.markCreated c rt
      pure (if ctx.existing.isEmpty then CreateTableResult.created else .migrated)) ∧
    (∀ (m : Mapping) (ticks : Bool) (existing : List ColumnInfo),
      (∃ typeName t f, Mapping.build typeName t f = .ok m) →
      (existing ≠ [] → ∃ decls, List.Forall₂ (fun col d => col.sqlDecl ticks = .ok d)
          (m.columns.filter fun col => ∀ i ∈ existing, ¬ SameUpToAsciiCase i.name col.name) decls ∧
        m.tableStatements ticks existing = decls.map fun d => .ok (m.addColumnStatement d)) ∧
      (existing = [] → ∃ decls, List.Forall₂ (fun col d => col.sqlDecl ticks = .ok d) m.columns decls ∧
        m.tableStatements ticks existing = [.ok (m.createStatement decls)])) ∧
    ∀ (w : World) (ctx : CreationContext) (w₀ : World) (r : CreateTableResult) (w₁ : World)
      (infos : List ColumnInfo) (w₂ : World),
      Db.creationContext c rt flags w = .ok ctx w₀ → Db.createTableWith c rt flags w = .ok r w₁ →
      Db.tableInfo c ctx.mapping.tableName w₁ = .ok infos w₂ →
      (∀ i ∈ ctx.existing, ∃ j ∈ infos, j.name = i.name) →
      (∀ col ∈ ctx.mapping.columns, (∀ i ∈ ctx.existing, ¬ SameUpToAsciiCase i.name col.name) →
        ∃ j ∈ infos, j.name = col.name) →
      (∀ col ∈ ctx.mapping.columns, ∃ j ∈ infos, SameUpToAsciiCase j.name col.name) ∧
      ∀ flags', Db.createTableWith c rt flags' w₁ = (do
        Db.issueAll c (ctx.plans.map fun p => Except.ok (ctx.mapping.indexStatement p))
        Db.markCreated c rt
        pure CreateTableResult.migrated) w₂ := by
  refine ⟨Db.createTableWith_eq_issueAll c rt flags, ?_, ?_⟩
  · rintro m ticks existing ⟨typeName, t, f, hbuild⟩
    have hdecl := build_sqlDecl_ok hbuild ticks
    refine ⟨fun hne => ?_, fun hnil => ?_⟩
    · rw [← Mapping.missingColumns_eq_filter]
      exact m.tableStatements_migrate ticks hne hdecl
    · subst hnil
      exact m.tableStatements_create ticks hdecl
  · intro w ctx w₀ r w₁ infos w₂ hctx hrun hinfo hkept hadded
    have hlisted := listed_of_kept_and_added hkept hadded
    refine ⟨hlisted, fun flags' => ?_⟩
    -- the engine lists some column: one the table had, or one the run created
    have hne : infos ≠ [] := by
      by_cases hex : ctx.existing = []
      · by_cases hcols : ctx.mapping.columns = []
        · -- no table and no column: the engine refused the first run
          obtain ⟨err, w', hfail⟩ := Db.createTableWith_noColumns hctx hex hcols
          rw [hfail] at hrun
          cases hrun
        · obtain ⟨col, hcol⟩ := List.exists_mem_of_ne_nil _ hcols
          obtain ⟨j, hj, -⟩ := hlisted col hcol
          exact List.ne_nil_of_mem hj
      · obtain ⟨i, hi⟩ := List.exists_mem_of_ne_nil _ hex
        obtain ⟨j, hj, -⟩ := hkept i hi
        exact List.ne_nil_of_mem hj
    rw [Db.createTableWith_again flags' hctx hrun hinfo]
    simp only [CreationContext.statements, CreationContext.result,
      ctx.mapping.tableStatements_of_listed _ hne hlisted, List.nil_append,
      List.isEmpty_eq_false_iff.2 hne, Bool.false_eq_true, if_false]

/-- A record type with a key and one text column. -/
def noteType : RecordType :=
  { id := 0, name := "Note", table :=
    { name := "note", columns :=
      [{ property := "Id", field := ⟨.int .int64, false⟩, constraints := [.primaryKey] },
       { property := "Text", field := ⟨.string, true⟩ }] } }

set_option maxRecDepth 100000 in
/-- `Note` migrated onto a table that has only its key, written `ID`: `Text` is added; then
created on a fresh database and created again. -/
theorem note_migrates_again :
    (∃ m, Mapping.build "Note" noteType.table .none = .ok m ∧
      ∃ decls, List.Forall₂ (fun col d => col.sqlDecl true = .ok d)
        (m.columns.filter fun col => ∀ i ∈ [(⟨"ID", "bigint", false, none, true⟩ : ColumnInfo)],
          ¬ SameUpToAsciiCase i.name col.name) decls ∧
      m.tableStatements true [⟨"ID", "bigint", false, none, true⟩] =
        decls.map fun d => .ok (m.addColumnStatement d)) ∧
    ∃ ctx w₀ r w₁ infos w₂, Db.creationContext 0 noteType .none memoryWorld = .ok ctx w₀ ∧
      Db.createTableWith 0 noteType .none memoryWorld = .ok r w₁ ∧
      Db.tableInfo 0 ctx.mapping.tableName w₁ = .ok infos w₂ ∧
      (∀ col ∈ ctx.mapping.columns, ∃ j ∈ infos, SameUpToAsciiCase j.name col.name) ∧
      ∀ flags', Db.createTableWith 0 noteType flags' w₁ = (do
        Db.issueAll 0 (ctx.plans.map fun p => Except.ok (ctx.mapping.indexStatement p))
        Db.markCreated 0 noteType
        pure CreateTableResult.migrated) w₂ := by
  have hthm := createTableWith_migrates_additively 0 noteType .none
  constructor
  · have hbuilt : (Mapping.build "Note" noteType.table .none).isOk = true := by decide +kernel
    cases hb : Mapping.build "Note" noteType.table .none with
    | error e =>
      rw [hb] at hbuilt
      cases hbuilt
    | ok m => exact ⟨m, rfl, (hthm.2.1 m true _ ⟨_, _, _, hb⟩).1 (List.cons_ne_nil _ _)⟩
  · -- both runs succeed, and the engine lists the created columns by their names
    have hcheck : (match Db.creationContext 0 noteType .none memoryWorld with
      | .ok ctx _ =>
        match Db.createTableWith 0 noteType .none memoryWorld with
        | .ok _ w₁ =>
          match Db.tableInfo 0 ctx.mapping.tableName w₁ with
          | .ok infos _ => decide ((∀ i ∈ ctx.existing, ∃ j ∈ infos, j.name = i.name) ∧
              ∀ col ∈ ctx.mapping.columns,
                (∀ i ∈ ctx.existing, ¬ SameUpToAsciiCase i.name col.name) →
                  ∃ j ∈ infos, j.name = col.name)
          | .error _ _ => false
        | .error _ _ => false
      | .error _ _ => false) = true := by
      decide +kernel
    cases h₁ : Db.creationContext 0 noteType .none memoryWorld with
    | error e w =>
      simp only [h₁] at hcheck
      cases hcheck
    | ok ctx w₀ =>
      simp only [h₁] at hcheck
      cases h₂ : Db.createTableWith 0 noteType .none memoryWorld with
      | error e w =>
        simp only [h₂] at hcheck
        cases hcheck
      | ok r w₁ =>
        simp only [h₂] at hcheck
        cases h₃ : Db.tableInfo 0 ctx.mapping.tableName w₁ with
        | error e w =>
          simp only [h₃] at hcheck
          cases hcheck
        | ok infos w₂ =>
          simp only [h₃] at hcheck
          obtain ⟨hkept, hadded⟩ := of_decide_eq_true hcheck
          obtain ⟨hlisted, hagain⟩ :=
            hthm.2.2 memoryWorld ctx w₀ r w₁ infos w₂ h₁ h₂ h₃ hkept hadded
          exact ⟨ctx, w₀, r, w₁, infos, w₂, rfl, rfl, h₃, hlisted, hagain⟩

end RecordMap
