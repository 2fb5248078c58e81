import RecordMap.Proofs.Database.Streaming
import RecordMap.Database.Records

/-!
# What a failed write leaves behind

Neither a table creation nor an insert runs inside a transaction of its own, so a failure part
way through can leave behind what the engine already did.

A table creation issues its statements one after another (`createTableWith_eq_issueAll`). When
it fails, it has issued a prefix of them, each accepted, and then the one that could not be
written or was refused, or it failed while reading its context, before issuing any
(`createTableWith_error_stops_at_statement`). In both cases it has not recorded the table as created.

An insert that fails did so before the engine saw its statement, with the engine as it was, or
because the engine refused the statement. The one failure after the engine inserted is the
auto-increment key refusing the new row id: the world is then the one the accepted insert left
(`insertWith_error_cases`).
-/

namespace RecordMap

/-- The values an insert binds: those of the columns its mode writes, in mapping order. -/
def Mapping.insertValues (m : Mapping) (mode : InsertMode) (record : List Value) : List Value :=
  (match mode with
    | .plain => m.insertColumns
    | .replace => m.replaceColumns).map fun col : Column => col.valueOf record

namespace Db

/-! ## Runs that fail -/

theorem bind_eq_error {α γ : Type} {p : Db α} {f : α → Db γ} {w w' : World} {e : Error}
    (h : (p >>= f) w = .error e w') :
    p w = .error e w' ∨ ∃ a w₁, p w = .ok a w₁ ∧ f a w₁ = .error e w' := by
  cases hp : p w with
  | ok a w₁ =>
    rw [bind_of_eq_ok _ hp] at h
    exact .inr ⟨a, w₁, rfl, h⟩
  | error e₁ w₁ =>
    rw [bind_of_eq_error _ hp] at h
    cases h
    exact .inl rfl

section Keeps

variable {β α : Type} {view : World → β} {p : Db α} {w w' : World}

theorem Keeps.eq_of_eq_ok (hp : Keeps view p) {a : α} (h : p w = .ok a w') : view w' = view w := by
  have hw := hp w
  rwa [h] at hw

theorem Keeps.eq_of_eq_error (hp : Keeps view p) {e : Error} (h : p w = .error e w') :
    view w' = view w := by
  have hw := hp w
  rwa [h] at hw

end Keeps

/-! ## Statements issued until one fails -/

theorem issueAll_cons_ok (c : Nat) (sql : String) (rest : List (Outcome String)) :
    issueAll c (.ok sql :: rest) = (execute c sql [] >>= fun _ => issueAll c rest) := rfl

theorem issueAll_cons_error (c : Nat) (e : Error) (rest : List (Outcome String)) (w : World) :
    issueAll c (.error e :: rest) w = .error e w := rfl

/-- Statements issued one after another fail exactly at one of them: those before it were each
accepted, and it could not be written or the engine refused it. -/
theorem issueAll_eq_error {c : Nat} {stmts : List (Outcome String)} {w w' : World} {e : Error}
    (h : issueAll c stmts w = .error e w') :
    ∃ pre s post w₁, stmts = pre ++ s :: post ∧ issueAll c pre w = .ok () w₁ ∧
      (s = .error e ∧ w' = w₁ ∨ ∃ sql, s = .ok sql ∧ execute c sql [] w₁ = .error e w') := by
  induction stmts generalizing w with
  | nil => cases h
  | cons s rest ih =>
    cases s with
    | error e₁ =>
      -- a statement that could not be written fails in its place, first
      rw [issueAll_cons_error] at h
      injection h with he hw
      subst he hw
      exact ⟨[], _, rest, _, rfl, rfl, .inl ⟨rfl, rfl⟩⟩
    | ok sql =>
      rw [issueAll_cons_ok] at h
      rcases bind_eq_error h with hx | ⟨n, w₂, hx, hrest⟩
      · exact ⟨[], .ok sql, rest, w, rfl, rfl, .inr ⟨sql, rfl, hx⟩⟩
      · -- the first statement was accepted: the failure lies among the rest
        obtain ⟨pre, s, post, w₁, hsplit, hpre, hs⟩ := ih hrest
        refine ⟨.ok sql :: pre, s, post, w₁, by rw [hsplit]; rfl, ?_, hs⟩
        rw [issueAll_cons_ok, bind_of_eq_ok _ hx]
        exact hpre

/-! ## A table creation that fails -/

/-- The record types connection `c` has made their tables ready for. -/
def createdOf (c : Nat) (w : World) : List Nat := (w.connections.getD c default).created

theorem getD_modify_view {γ : Type} (view : Connection → γ) {c : Nat}
    {f : Connection → Connection} (hf : ∀ k, view (f k) = view k) (c' : Nat)
    (cs : Array Connection) : view ((cs.modify c f).getD c' default) = view (cs.getD c' default) := by
  simp only [Array.getD_eq_getD_getElem?, Array.getElem?_modify]
  split
  · cases cs[c']? with
    | none => rfl
    | some k => exact hf k
  · rfl

theorem Keeps.created {α : Type} {p : Db α} (h : Keeps (·.connections) p) (c : Nat) :
    Keeps (Db.createdOf c) p := by
  intro w
  have hw : (finalWorld (p w)).connections = w.connections := h w
  simp only [Db.createdOf]
  rw [hw]

theorem Keeps.mappingWith_createdOf (c : Nat) (rt : RecordType) (flags : CreateFlags) (c' : Nat) :
    Keeps (createdOf c') (mappingWith c rt flags) := by
  unfold mappingWith
  refine Keeps.bind (Keeps.connection c) fun k => Keeps.bind (Keeps.ofOutcome _) fun ec => ?_
  refine Keeps.bind (fun w => ?_) fun _ => Keeps.pure _
  exact getD_modify_view (f := fun k => { k with catalog := ec.2 }) (·.created) (fun _ => rfl) c'
    w.connections

theorem Keeps.creationContext_createdOf (c : Nat) (rt : RecordType) (flags : CreateFlags)
    (c' : Nat) : Keeps (createdOf c') (creationContext c rt flags) := by
  unfold creationContext
  exact Keeps.bind (Keeps.mappingWith_createdOf c rt flags c') fun _ =>
    Keeps.bind (Keeps.ofOutcome _) fun _ => Keeps.bind (Keeps.connection c) fun _ =>
      Keeps.bind ((Keeps.tableInfo c _).created c') fun _ => Keeps.pure _

/-- A table creation that fails has not recorded the table as created. It failed while reading
its context, before issuing anything; or it issued a prefix of its statements, each accepted,
and then one that could not be written or that the engine refused, leaving what the accepted
ones did. -/
theorem createTableWith_error_stops_at_statement {c : Nat} {rt : RecordType} {flags : CreateFlags}
    {w w' : World} {e : Error} (h : createTableWith c rt flags w = .error e w') :
    createdOf c w' = createdOf c w ∧
      (creationContext c rt flags w = .error e w' ∨
        ∃ ctx w₀ pre s post w₁, creationContext c rt flags w = .ok ctx w₀ ∧
          ctx.statements = pre ++ s :: post ∧ issueAll c pre w₀ = .ok () w₁ ∧
          (s = .error e ∧ w' = w₁ ∨ ∃ sql, s = .ok sql ∧ execute c sql [] w₁ = .error e w')) := by
  rw [createTableWith_eq_issueAll] at h
  have hkeep := Keeps.creationContext_createdOf c rt flags c
  rcases bind_eq_error h with hctx | ⟨ctx, w₀, hctx, hrest⟩
  · exact ⟨hkeep.eq_of_eq_error hctx, .inl hctx⟩
  · -- recording the table cannot fail, so the statements did
    have hissue : issueAll c ctx.statements w₀ = .error e w' := by
      rcases bind_eq_error hrest with hs | ⟨u, w₂, -, hmark⟩
      · exact hs
      · cases hmark
    obtain ⟨pre, s, post, w₁, hsplit, hpre, hs⟩ := issueAll_eq_error hissue
    refine ⟨?_, .inr ⟨ctx, w₀, pre, s, post, w₁, hctx, hsplit, hpre, hs⟩⟩
    calc createdOf c w' = createdOf c w₀ :=
          ((Keeps.issueAll c ctx.statements).created c).eq_of_eq_error hissue
      _ = createdOf c w := hkeep.eq_of_eq_ok hctx

/-- A record type whose label column has an index named `Other`. -/
def labelledType : RecordType :=
  { id := 0, name := "Entry", table :=
    { name := "Entry", columns :=
      [{ property := "Id", field := ⟨.int .int64, false⟩, constraints := [.primaryKey] },
       { property := "Label", field := ⟨.string, false⟩,
         constraints := [.indexed { name := some "Other" }] }] } }

/-- A fresh database holding a table named `Other`. -/
def otherTableWorld : World :=
  finalWorld (execute 0 "create table \"Other\"(x)" [] memoryWorld)

/-- Whether creating `labelledType`'s table next to a table named `Other` fails and leaves the
engine holding the table `Entry` with both its columns. -/
def indexClashRuns : Bool :=
  match createTableWith 0 labelledType .none otherTableWorld with
  | .error _ w' =>
    ((w'.engine.stores.getD 0 Sql.Store.empty).table? "Entry").map (·.columns.size) == some 2
  | _ => false

set_option maxRecDepth 100000 in
/-- An index whose name is already a table's: the table is created, the index is refused, and
the failed creation leaves the table behind while it records nothing as created. -/
theorem index_clash_leaves_table :
    ∃ e w', createTableWith 0 labelledType .none otherTableWorld = .error e w' ∧
      createdOf 0 w' = createdOf 0 otherTableWorld ∧
      ((w'.engine.stores.getD 0 Sql.Store.empty).table? "Entry").map (·.columns.size) = some 2 := by
  have hcheck : indexClashRuns = true := by
    decide +kernel
  unfold indexClashRuns at hcheck
  split at hcheck
  · rename_i e w' hrun
    exact ⟨e, w', hrun, (createTableWith_error_stops_at_statement hrun).1, by simpa using hcheck⟩
  · cases hcheck

/-! ## An insert that fails -/

theorem Keeps.mapping_engine (c : Nat) (rt : RecordType) : Keeps (·.engine) (mapping c rt) :=
  Keeps.bind (Keeps.connection c) fun _ => by
    unfold mappingWith
    exact Keeps.bind (Keeps.connection c) fun _ => Keeps.bind (Keeps.ofOutcome _) fun _ =>
      Keeps.bind (fun _ => rfl) fun _ => Keeps.pure _

theorem Keeps.assign (col : Column) (record : List Value) (v : Value) {β : Type}
    {view : World → β} : Keeps view (assign col record v) :=
  Keeps.bind (Keeps.ofTyped _) fun _ => Keeps.pure _

theorem random_apply (w : World) : ∃ r, random w = .ok r { w with entropy := r } := ⟨_, rfl⟩

section Identifiers

variable {β : Type} {view : World → β}
  (hentropy : ∀ (w : World) (r : Nat), view { w with entropy := r } = view w)
  (hgenerated : ∀ (w : World) (g : List Uuid), view { w with generated := g } = view w)
include hentropy

theorem Keeps.random : Keeps view Db.random := by
  intro w
  obtain ⟨r, hr⟩ := random_apply w
  rw [hr]
  exact hentropy w r

include hgenerated in
theorem Keeps.assignIdentifier (m : Mapping) (record : List Value) :
    Keeps view (Db.assignIdentifier m record) := by
  unfold Db.assignIdentifier
  split
  · refine Keeps.ite _ (Keeps.bind ?_ fun u => Keeps.assign _ _ _) (Keeps.pure _)
    unfold freshUuid
    exact Keeps.bind (Keeps.random hentropy) fun _ => Keeps.bind (Keeps.random hentropy) fun _ =>
      Keeps.bind (fun w => hgenerated w _) fun _ => Keeps.pure _
  · exact Keeps.pure _

end Identifiers

theorem Keeps.assignIdentifier_engine (m : Mapping) (record : List Value) :
    Keeps (·.engine) (Db.assignIdentifier m record) :=
  Keeps.assignIdentifier (fun _ _ => rfl) (fun _ _ => rfl) m record

/-- The row id of the last insert on connection `c`, as `lastInsertRowid` reads it: 0 on a closed
connection. -/
def lastRowidOf (c : Nat) (w : World) : Int :=
  (((w.connections.getD c default).handle.map w.engine.handle).map (·.lastRowid)).getD 0

theorem lastInsertRowid_apply (c : Nat) (w : World) :
    lastInsertRowid c w = .ok (lastRowidOf c w) w := rfl

theorem assign_of_accept_error {col : Column} {record : List Value} {v : Value} {f : TypeFault}
    (h : col.field.accept v = .error f) (w : World) :
    assign col record v w = .error (.unsupportedType f) w := by
  unfold assign
  rw [h]
  rfl

theorem assign_of_accept_ok {col : Column} {record : List Value} {v stored : Value}
    (h : col.field.accept v = .ok stored) (w : World) :
    assign col record v w = .ok (record.set col.position stored) w := by
  unfold assign
  rw [h]
  rfl

/-- Where an insert of `record` on world `w` that fails failed, with the record it hands back,
its error and the world it ends in. -/
inductive InsertFailure (c : Nat) (rt : RecordType) (mode : InsertMode) (record : List Value)
    (w : World) : List Value → Error → World → Prop
  /-- Before the engine saw the insert: reading the mapping or giving the record an identifier
  failed, and the engine is as it was. -/
  | early {e : Error} {w' : World} : w'.engine = w.engine →
      InsertFailure c rt mode record w record e w'
  /-- The engine refused the insert statement of the record's mapping, run on the engine as it
  was. -/
  | refused {m : Mapping} {record₁ : List Value} {w₀ w₁ w' : World} {e₀ : Error} :
      mapping c rt w = .ok m w₀ → assignIdentifier m record w₀ = .ok record₁ w₁ →
      w₁.engine = w.engine →
      execute c (m.insertSql mode) (m.insertValues mode record₁) w₁ = .error e₀ w' →
      InsertFailure c rt mode record w record₁ (attachRecord m record₁ e₀) w'
  /-- The engine accepted the insert and inserted rows, and the auto-increment key refused the
  new row id: the world is the one the insert left. -/
  | keyRefused {m : Mapping} {pk : Column} {record₁ : List Value} {w₀ w₁ w' : World}
      {changed : Nat} {f : TypeFault} :
      mapping c rt w = .ok m w₀ → assignIdentifier m record w₀ = .ok record₁ w₁ →
      w₁.engine = w.engine →
      execute c (m.insertSql mode) (m.insertValues mode record₁) w₁ = .ok changed w' →
      0 < changed → m.hasAutoIncPk = true → m.pkColumn = some pk →
      pk.field.accept (.int (lastRowidOf c w')) = .error f →
      InsertFailure c rt mode record w record₁ (.unsupportedType f) w'

/-- Where an insert that fails failed: before the engine saw its statement, with the engine as it
was; in the engine, which refused the statement; or, the one failure after the engine inserted,
in the auto-increment key, which refused the new row id and left the world the insert made. -/
theorem insertWith_error_cases {c : Nat} {rt : RecordType} {mode : InsertMode}
    {record r : List Value} {w w' : World} {e : Error}
    (h : insertWith c rt mode record w = .ok (r, .error e) w') :
    InsertFailure c rt mode record w r e w' := by
  unfold insertWith at h
  cases hm : mapping c rt w with
  | error e₁ w₁ =>
    rw [bind_of_eq_ok _ (attempt_of_eq_error hm)] at h
    cases h
    exact .early ((Keeps.mapping_engine c rt).eq_of_eq_error hm)
  | ok m w₀ =>
    rw [bind_of_eq_ok _ (attempt_of_eq_ok hm)] at h
    dsimp only at h
    have hkeep₀ : w₀.engine = w.engine := (Keeps.mapping_engine c rt).eq_of_eq_ok hm
    cases hid : assignIdentifier m record w₀ with
    | error e₁ w₁ =>
      rw [bind_of_eq_ok _ (attempt_of_eq_error hid)] at h
      cases h
      exact .early (((Keeps.assignIdentifier_engine m record).eq_of_eq_error hid).trans hkeep₀)
    | ok record₁ w₁ =>
      rw [bind_of_eq_ok _ (attempt_of_eq_ok hid)] at h
      dsimp only at h
      have hkeep₁ : w₁.engine = w.engine :=
        ((Keeps.assignIdentifier_engine m record).eq_of_eq_ok hid).trans hkeep₀
      -- the values the insert binds, as the mapping's insert values
      generalize hv : List.map (fun x : Column => x.valueOf record₁) _ = values at h
      obtain rfl : values = m.insertValues mode record₁ := by
        rw [← hv]
        cases mode <;> rfl
      cases hx : execute c (m.insertSql mode) (m.insertValues mode record₁) w₁ with
      | error e₀ w₂ =>
        rw [bind_of_eq_ok _ (attempt_of_eq_error hx)] at h
        cases h
        exact .refused hm hid hkeep₁ hx
      | ok changed w₂ =>
        rw [bind_of_eq_ok _ (attempt_of_eq_ok hx)] at h
        dsimp only at h
        -- the engine inserted: only the key's write-back can still fail
        cases hpk : m.pkColumn with
        | none =>
          rw [hpk] at h
          cases h
        | some pk =>
          rw [hpk] at h
          dsimp only at h
          split at h
          · rename_i hcond
            simp only [Bool.and_eq_true, decide_eq_true_eq] at hcond
            cases hacc : pk.field.accept (.int (lastRowidOf c w₂)) with
            | error f =>
              have hback : (lastInsertRowid c >>= fun x => assign pk record₁ (.int x)) w₂ =
                  .error (.unsupportedType f) w₂ := by
                rw [bind_of_eq_ok _ (lastInsertRowid_apply c w₂)]
                exact assign_of_accept_error hacc w₂
              rw [bind_of_eq_ok _ (attempt_of_eq_error hback)] at h
              cases h
              exact .keyRefused hm hid hkeep₁ hx hcond.1 hcond.2 hpk hacc
            | ok stored =>
              have hback : (lastInsertRowid c >>= fun x => assign pk record₁ (.int x)) w₂ =
                  .ok (record₁.set pk.position stored) w₂ := by
                rw [bind_of_eq_ok _ (lastInsertRowid_apply c w₂)]
                exact assign_of_accept_ok hacc w₂
              rw [bind_of_eq_ok _ (attempt_of_eq_ok hback)] at h
              cases h
          · cases h

/-- A record type with an 8-bit auto-increment key. -/
def narrowKeyType : RecordType :=
  { id := 0, name := "Entry", table :=
    { name := "Entry", columns :=
      [{ property := "Id", field := ⟨.int .int8, false⟩,
         constraints := [.primaryKey, .autoIncrement] },
       { property := "Label", field := ⟨.string, false⟩ }] } }

/-- `narrowKeyType`'s table holding one row, with key 127, the largest the key holds. -/
def fullKeyWorld : World :=
  finalWorld ((do
    let _ ← createTableWith 0 narrowKeyType .none
    let _ ← insertWith 0 narrowKeyType .replace [.int 127, .text "a"]
    pure ()) memoryWorld)

/-- Whether inserting one more record into `fullKeyWorld` fails with a conversion error and leaves
the table holding rows 127 and 128. -/
def narrowKeyRuns : Bool :=
  match insertWith 0 narrowKeyType .plain [.int 0, .text "b"] fullKeyWorld with
  | .ok (_, .error (.unsupportedType _)) w' =>
    ((w'.engine.stores.getD 0 Sql.Store.empty).table? "Entry").map (·.rows.map (·.rowid)) ==
      some [127, 128]
  | _ => false

set_option maxRecDepth 100000 in
/-- After key 127 of an 8-bit auto-increment key, the engine inserts the next record as row 128,
the key refuses that id, and the insert fails with the row left in the table. -/
theorem narrow_key_insert_keeps_row :
    ∃ r e w', insertWith 0 narrowKeyType .plain [.int 0, .text "b"] fullKeyWorld =
        .ok (r, .error e) w' ∧
      InsertFailure 0 narrowKeyType .plain [.int 0, .text "b"] fullKeyWorld r e w' ∧
      ((w'.engine.stores.getD 0 Sql.Store.empty).table? "Entry").map (·.rows.map (·.rowid)) =
        some [127, 128] := by
  have hcheck : narrowKeyRuns = true := by
    decide +kernel
  unfold narrowKeyRuns at hcheck
  split at hcheck
  · rename_i r f w' hrun
    exact ⟨r, _, w', hrun, insertWith_error_cases hrun, by simpa using hcheck⟩
  · cases hcheck

end Db

end RecordMap
