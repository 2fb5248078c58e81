import RecordMap.Proofs.Schema.IndexPlans
import RecordMap.Proofs.Schema.Build
import RecordMap.Database.Open

/-!
# The statements a table creation issues

`createTableWith` reads the mapping, plans its indexes, and asks the engine which columns the
table has. It then issues statements, one after another, stopping at the first that fails
(`createTableWith_eq_issueAll`): when the engine lists no column, one statement that creates the
table with every mapped column's declaration; otherwise one `alter table … add column` for each
mapped column whose storage name equals no listed name up to ASCII case, in mapping order. Then
one `create [unique] index if not exists` per index plan. Nothing else touches the table, so
migration only ever adds columns.

Reading the engine's description of a table leaves the library's connections as they were
(`Db.Keeps`, a small frame calculus over `Db` programs), so the timestamp policy that writes the
declarations is the one read before.
-/

namespace RecordMap

open RecordMap.Text

namespace Db

/-! ## Programs that leave part of the world alone -/

/-- The world a run ends in, whether it succeeds or fails. -/
def finalWorld {α : Type} : EStateM.Result Error World α → World
  | .ok _ w => w
  | .error _ w => w

/-- A program keeps what `view` sees of the world: every run ends in a world that looks the same
through `view`. -/
def Keeps {β α : Type} (view : World → β) (p : Db α) : Prop :=
  ∀ w, view (finalWorld (p w)) = view w

section Keeps

variable {β : Type} {view : World → β}

theorem Keeps.pure {α : Type} (a : α) : Keeps view (Pure.pure a : Db α) := fun _ => rfl

theorem Keeps.get : Keeps view (MonadState.get : Db World) := fun _ => rfl

theorem Keeps.throw {α : Type} (e : Error) : Keeps view (MonadExcept.throw e : Db α) :=
  fun _ => rfl

theorem Keeps.bind {α γ : Type} {p : Db α} {f : α → Db γ} (hp : Keeps view p)
    (hf : ∀ a, Keeps view (f a)) : Keeps view (p >>= f) := by
  intro w
  show view (finalWorld (EStateM.bind p f w)) = view w
  unfold EStateM.bind
  cases h : p w with
  | ok a w' =>
    have hw := hp w
    rw [h] at hw
    exact (hf a w').trans hw
  | error e w' =>
    have hw := hp w
    rw [h] at hw
    exact hw

theorem Keeps.ofOutcome {α : Type} (o : Outcome α) : Keeps view (ofOutcome o) := by
  cases o with
  | ok a => exact Keeps.pure a
  | error e => exact Keeps.throw e

theorem Keeps.ofTyped {α : Type} (o : Except TypeFault α) : Keeps view (ofTyped o) := by
  cases o with
  | ok a => exact Keeps.pure a
  | error f => exact Keeps.throw _

theorem Keeps.ite {α : Type} (b : Prop) [Decidable b] {p q : Db α} (hp : Keeps view p)
    (hq : Keeps view q) : Keeps view (if b then p else q) := by
  by_cases h : b
  · rw [if_pos h]
    exact hp
  · rw [if_neg h]
    exact hq

theorem Keeps.forIn {α γ : Type} (l : List α) {f : α → γ → Db (ForInStep γ)}
    (hf : ∀ a g, Keeps view (f a g)) : ∀ init, Keeps view (forIn l init f) := by
  induction l with
  | nil => exact Keeps.pure
  | cons a l ih =>
    intro init
    rw [List.forIn_cons]
    refine Keeps.bind (hf a init) fun step => ?_
    cases step with
    | done g => exact Keeps.pure g
    | yield g => exact ih g

theorem Keeps.mapM {α γ : Type} {f : α → Db γ} (hf : ∀ a, Keeps view (f a)) :
    ∀ l : List α, Keeps view (l.mapM f)
  | [] => Keeps.pure []
  | a :: l => by
    rw [List.mapM_cons]
    exact Keeps.bind (hf a) fun _ => Keeps.bind (Keeps.mapM hf l) fun _ => Keeps.pure _

theorem attempt_of_eq_ok {α : Type} {p : Db α} {w w' : World} {a : α} (h : p w = .ok a w') :
    attempt p w = .ok (.ok a) w' := by
  unfold attempt
  show EStateM.tryCatch (EStateM.map Except.ok p) _ w = _
  delta EStateM.tryCatch EStateM.map
  beta_reduce
  rw [h]

theorem attempt_of_eq_error {α : Type} {p : Db α} {w w' : World} {e : Error}
    (h : p w = .error e w') : attempt p w = .ok (.error e) w' := by
  unfold attempt
  show EStateM.tryCatch (EStateM.map Except.ok p) _ w = _
  delta EStateM.tryCatch EStateM.map
  beta_reduce
  rw [h]
  rfl

/-- `attempt` hands back what its program did, in the world the program left. -/
theorem attempt_eq {α : Type} (p : Db α) (w : World) : ∃ o, attempt p w = .ok o (finalWorld (p w)) := by
  cases h : p w with
  | ok a w' => exact ⟨_, attempt_of_eq_ok h⟩
  | error e w' => exact ⟨_, attempt_of_eq_error h⟩

theorem Keeps.attempt {α : Type} {p : Db α} (hp : Keeps view p) : Keeps view (attempt p) := by
  intro w
  obtain ⟨o, ho⟩ := attempt_eq p w
  rw [ho]
  exact hp w

end Keeps

theorem Keeps.engine {α : Type} (p : Sql.Step α) : Keeps (·.connections) (Db.engine p) := by
  intro w
  show (finalWorld (Db.engine p w)).connections = w.connections
  unfold Db.engine
  rw [show ∀ {γ : Type} (f : World → Db γ), (MonadState.get >>= f) w = f w w from fun _ => rfl]
  cases EStateM.run p w.engine <;> rfl

theorem Keeps.connection (c : Nat) {β : Type} {view : World → β} :
    Keeps view (Db.connection c) := fun _ => rfl

theorem Keeps.handle (c : Nat) {β : Type} {view : World → β} : Keeps view (Db.handle c) := by
  unfold Db.handle
  refine Keeps.bind (Keeps.connection c) fun k => ?_
  cases k.handle with
  | some h => exact Keeps.pure h
  | none => exact Keeps.throw _

theorem Keeps.bindingIndex (p : Sql.Prepared) (name : Option String) (next : Nat) {β : Type}
    {view : World → β} : Keeps view (Db.bindingIndex p name next) := by
  unfold Db.bindingIndex
  split
  · split
    · exact Keeps.pure _
    · exact Keeps.throw _
  · exact Keeps.pure _

theorem Keeps.bindingDatum (ticks : Bool) (h : Host) {β : Type} {view : World → β} :
    Keeps view (Db.bindingDatum ticks h) := by
  cases h with
  | scalar v => exact Keeps.ofTyped _
  | _ => exact Keeps.throw _

/-- Preparing a command reads the world and changes nothing. -/
theorem Keeps.prepare (c : Nat) (cmd : Command) {β : Type} {view : World → β} :
    Keeps view (Db.prepare c cmd) := by
  unfold Db.prepare
  dsimp only
  refine Keeps.bind (Keeps.handle c) fun h => Keeps.bind (Keeps.connection c) fun k =>
    Keeps.bind Keeps.get fun w => ?_
  -- the engine's verdict on the text, then the loop that binds each value
  split <;> refine Keeps.bind ?_ fun p =>
    Keeps.bind (Keeps.forIn _ (fun b g => ?_) _) fun _ => Keeps.pure _
  all_goals first
    | exact Keeps.pure _
    | exact Keeps.throw _
    | refine Keeps.bind (Keeps.bindingIndex _ _ _) fun index => Keeps.ite _ ?_ ?_ <;>
        refine Keeps.bind (Keeps.bindingDatum _ _) fun d => Keeps.ite _
          (Keeps.bind (Keeps.throw _) fun _ => Keeps.pure _) (Keeps.pure _)

theorem Keeps.stream (c : Nat) (b : Bound) : Keeps (·.connections) (Db.stream c b) := by
  unfold Db.stream
  refine Keeps.bind (Keeps.handle c) fun h => Keeps.bind (Keeps.engine _) fun r => ?_
  cases r with
  | ok out => exact Keeps.pure out
  | error f => exact Keeps.throw _

theorem Keeps.run (c : Nat) (b : Bound) : Keeps (·.connections) (Db.run c b) := by
  unfold Db.run
  refine Keeps.bind (Keeps.stream c b) fun out => ?_
  split
  · exact Keeps.throw _
  · exact Keeps.pure out

theorem Keeps.steps (c : Nat) (b : Bound) : Keeps (·.connections) (Db.steps c b) := by
  unfold Db.steps
  refine Keeps.bind (Keeps.attempt (Keeps.stream c b)) fun o => ?_
  cases o with
  | ok out => exact Keeps.pure _
  | error e => exact Keeps.pure _

theorem Keeps.execute (c : Nat) (sql : String) (params : List Value) :
    Keeps (·.connections) (Db.execute c sql params) := by
  have hchanges : Keeps (·.connections) (changes c) := by
    unfold changes engineHandle?
    exact Keeps.bind (Keeps.bind (Keeps.connection c) fun _ => Keeps.bind Keeps.get fun _ =>
      Keeps.pure _) fun _ => Keeps.pure _
  unfold Db.execute executeNonQuery
  refine Keeps.bind (Keeps.prepare c _) fun b => Keeps.bind (Keeps.steps c b) fun r => ?_
  -- only a failure before any row fails the statement
  rcases r with ⟨_ | ⟨row, rows⟩, _ | e⟩
  · exact hchanges
  · exact Keeps.throw e
  · exact hchanges
  · exact hchanges

theorem Keeps.tableInfo (c : Nat) (table : String) :
    Keeps (·.connections) (Db.tableInfo c table) := by
  unfold Db.tableInfo queryRows executeRows
  exact Keeps.bind (Keeps.bind (Keeps.prepare c _) fun b => Keeps.bind (Keeps.run c b) fun _ =>
    Keeps.pure _) fun rows => Keeps.mapM (fun _ => Keeps.ofOutcome _) rows

/-! ## Reading a connection -/

theorem connection_bind_twice {α : Type} (c : Nat) (f : Connection → Connection → Db α) :
    (do let k ← connection c; let k' ← connection c; f k k') = (do let k ← connection c; f k k) :=
  rfl

/-- A program that keeps the connections may read one before or after: the reading is the
same. -/
theorem bind_connection_comm {α γ : Type} {p : Db α} (hp : Keeps (·.connections) p) (c : Nat)
    (f : α → Connection → Db γ) :
    (do let a ← p; let k ← connection c; f a k) = (do let k ← connection c; let a ← p; f a k) := by
  funext w
  show EStateM.bind p (fun a => EStateM.bind (connection c) (f a)) w =
    EStateM.bind (connection c) (fun k => EStateM.bind p fun a => f a k) w
  have hw := hp w
  have hread : ∀ w : World, connection c w = .ok (w.connections.getD c default) w := fun _ => rfl
  simp only [EStateM.bind, hread]
  cases h : p w with
  | ok a w' =>
    rw [h] at hw
    simp only [finalWorld] at hw
    simp only [hw]
  | error e w' => rfl

end Db

/-! ## The statements -/

/-- The statement that adds a column to a mapping's table, from the column's declaration. -/
def Mapping.addColumnStatement (m : Mapping) (decl : String) : String :=
  "alter table " ++ quoteIdentifier m.tableName ++ " add column " ++ decl

/-- The statement that creates a mapping's table from its columns' declarations. -/
def Mapping.createStatement (m : Mapping) (decls : List String) : String :=
  "create table if not exists " ++ quoteIdentifier m.tableName ++ "(" ++
    ", ".intercalate decls ++ ")" ++ (if m.withoutRowid then " without rowid" else "")

/-- The statement that creates the index of a plan when there is none of its name. -/
def Mapping.indexStatement (m : Mapping) (p : IndexPlan) : String :=
  "create " ++ (if p.unique then "unique " else "") ++ "index if not exists " ++
    quoteIdentifier p.name ++ " on " ++ quoteIdentifier m.tableName ++ "(" ++
    ", ".intercalate ((p.columns.map (·.2)).map quoteIdentifier) ++ ")"

/-- The mapped columns a table lacks: those whose storage name equals the name of no column the
engine lists, up to ASCII case, in mapping order. -/
def Mapping.missingColumns (m : Mapping) (existing : List ColumnInfo) : List Column :=
  m.columns.filter fun col => !existing.any (eqIgnoreAsciiCase ·.name col.name)

/-- The statements that bring the table the engine describes up to the mapping: the whole table
when the engine lists no column, else one added column per missing column. A declaration that
cannot be written fails in its place. -/
def Mapping.tableStatements (m : Mapping) (ticks : Bool) (existing : List ColumnInfo) :
    List (Outcome String) :=
  if existing.isEmpty then [(m.columns.mapM fun col : Column => col.sqlDecl ticks).map m.createStatement]
  else (m.missingColumns existing).map fun col => (col.sqlDecl ticks).map m.addColumnStatement

/-- What a table creation reads before it issues anything: the mapping, its index plans, the
timestamp policy, and the columns the engine lists for the table. -/
structure CreationContext where
  mapping : Mapping
  plans : List IndexPlan
  ticks : Bool
  existing : List ColumnInfo

namespace CreationContext

/-- The statements issued: the table's, then one per index plan. -/
def statements (ctx : CreationContext) : List (Outcome String) :=
  ctx.mapping.tableStatements ctx.ticks ctx.existing ++
    ctx.plans.map fun p => .ok (ctx.mapping.indexStatement p)

/-- Whether the table was created or migrated. -/
def result (ctx : CreationContext) : CreateTableResult :=
  if ctx.existing.isEmpty then .created else .migrated

end CreationContext

namespace Db

/-- Runs statements in turn, stopping at the first that fails; a statement that could not be
written fails in its place. -/
def issueAll (c : Nat) : List (Outcome String) → Db Unit
  | [] => pure ()
  | s :: rest => do
    let _ ← execute c (← ofOutcome s) []
    issueAll c rest

/-- What a table creation reads before it issues anything. -/
def creationContext (c : Nat) (rt : RecordType) (flags : CreateFlags) : Db CreationContext := do
  let m ← mappingWith c rt flags
  let plans ← ofOutcome (planIndexes m)
  let ticks := (← connection c).ticks
  let existing ← tableInfo c m.tableName
  pure ⟨m, plans, ticks, existing⟩

theorem issueAll_append (c : Nat) (a b : List (Outcome String)) :
    issueAll c (a ++ b) = issueAll c a >>= fun _ => issueAll c b := by
  induction a with
  | nil => simp [issueAll]
  | cons s a ih => simp [issueAll, ih]

theorem Keeps.issueAll (c : Nat) (stmts : List (Outcome String)) :
    Keeps (·.connections) (issueAll c stmts) := by
  induction stmts with
  | nil => exact Keeps.pure _
  | cons s rest ih =>
    exact Keeps.bind (Keeps.ofOutcome s) fun sql =>
      Keeps.bind (Keeps.execute c sql []) fun _ => ih

theorem forIn_createIndex (c : Nat) (m : Mapping) (plans : List IndexPlan) :
    (forIn plans PUnit.unit fun p _ => do
      let _ ← createIndex c p.name m.tableName (p.columns.map (·.2)) p.unique
      pure (ForInStep.yield PUnit.unit)) =
      issueAll c (plans.map fun p => .ok (m.indexStatement p)) := by
  induction plans with
  | nil => rfl
  | cons p plans ih =>
    rw [List.forIn_cons, List.map_cons, issueAll, ← ih]
    simp only [bind_assoc, pure_bind]
    rfl

theorem throw_bind {α γ : Type} (e : Error) (f : α → Db γ) :
    (throw e >>= f : Db γ) = throw e := rfl

theorem mapM_ofOutcome {α γ : Type} (f : α → Outcome γ) (l : List α) :
    l.mapM (fun a => ofOutcome (f a)) = ofOutcome (l.mapM f) := by
  induction l with
  | nil => rfl
  | cons a l ih =>
    rw [List.mapM_cons, List.mapM_cons, ih]
    cases f a with
    | error e => rfl
    | ok b =>
      cases l.mapM f with
      | error e => rfl
      | ok bs => rfl

/-- The loop of a migration issues one added column per column the table lacks, in order. -/
theorem forIn_addMissing (c : Nat) (m : Mapping) (existing : List ColumnInfo) (ticks : Bool)
    (cols : List Column) :
    (for col in cols do
      if !existing.any (eqIgnoreAsciiCase ·.name col.name) then
        let decl ← ofOutcome (col.sqlDecl ticks)
        let _ ← execute c ("alter table " ++ quoteIdentifier m.tableName ++ " add column " ++ decl) []) =
      issueAll c ((cols.filter fun col => !existing.any (eqIgnoreAsciiCase ·.name col.name)).map
        fun col => (col.sqlDecl ticks).map m.addColumnStatement) := by
  rw [bind_pure_unit]
  induction cols with
  | nil => rfl
  | cons col cols ih =>
    rw [List.forIn_cons, List.filter_cons]
    by_cases h : existing.any (eqIgnoreAsciiCase ·.name col.name) = true
    · -- a column the table has: nothing is issued for it
      simp only [h, Bool.not_true, Bool.false_eq_true, if_false, pure_bind, ih]
    · have hb : (!existing.any (eqIgnoreAsciiCase ·.name col.name)) = true := by simpa using h
      simp only [hb, if_true, List.map_cons, issueAll, bind_assoc]
      cases hd : col.sqlDecl ticks with
      | error e => simp only [ofOutcome, Except.map, throw_bind]
      | ok d =>
        have hof : (ofOutcome (.ok d) : Db String) = pure d := rfl
        have hmap : (Except.ok d : Outcome String).map m.addColumnStatement =
            .ok (m.addColumnStatement d) := rfl
        simp only [hof, hmap, pure_bind, ← ih]
        rfl

theorem migrateTable_eq (c : Nat) (m : Mapping) (existing : List ColumnInfo) :
    migrateTable c m existing = (do
      let k ← connection c
      issueAll c ((m.missingColumns existing).map fun col =>
        (col.sqlDecl k.ticks).map m.addColumnStatement)) := by
  unfold migrateTable Mapping.missingColumns
  simp only [forIn_addMissing]

theorem ofOutcome_map_bind {α γ δ : Type} (o : Outcome α) (g : α → γ) (f : γ → Db δ) :
    (ofOutcome (o.map g) >>= f) = ofOutcome o >>= fun a => f (g a) := by
  cases o <;> rfl

theorem ite_connection {α : Type} (b : Prop) [Decidable b] (c : Nat) (p : Db α)
    (q : Connection → Db α) :
    (if b then p else connection c >>= q) = connection c >>= fun k => if b then p else q k := by
  split <;> rfl

/-- A table creation reads its context, issues its statements, and records the table. -/
theorem createTableWith_eq_issueAll (c : Nat) (rt : RecordType) (flags : CreateFlags) :
    createTableWith c rt flags = (do
      let ctx ← creationContext c rt flags
      issueAll c ctx.statements
      markCreated c rt
      pure ctx.result) := by
  unfold createTableWith creationContext
  simp only [bind_assoc, pure_bind]
  refine bind_congr fun m => bind_congr fun plans => ?_
  -- a migration reads the timestamp policy again; that read moves up to the first one
  simp only [migrateTable_eq, bind_assoc, ite_connection]
  simp only [bind_connection_comm (Keeps.tableInfo c m.tableName), connection_bind_twice]
  refine bind_congr fun k => bind_congr fun existing => ?_
  simp only [CreationContext.statements, CreationContext.result, Mapping.tableStatements,
    issueAll_append, bind_assoc, forIn_createIndex]
  by_cases h : existing.isEmpty = true
  · simp only [h, if_true, mapM_ofOutcome, issueAll, ofOutcome_map_bind, bind_assoc, pure_bind]
    rfl
  · simp only [h, Bool.false_eq_true, if_false]


/-! ## Runs that succeed -/

theorem bind_eq_ok {α γ : Type} {p : Db α} {f : α → Db γ} {w w' : World} {b : γ}
    (h : (p >>= f) w = .ok b w') : ∃ a w₁, p w = .ok a w₁ ∧ f a w₁ = .ok b w' := by
  change EStateM.bind p f w = _ at h
  unfold EStateM.bind at h
  cases hp : p w with
  | ok a w₁ =>
    rw [hp] at h
    exact ⟨a, w₁, rfl, h⟩
  | error e w₁ =>
    rw [hp] at h
    cases h

theorem bind_of_eq_ok {α γ : Type} {p : Db α} (f : α → Db γ) {w w₁ : World} {a : α}
    (h : p w = .ok a w₁) : (p >>= f) w = f a w₁ := by
  change EStateM.bind p f w = _
  unfold EStateM.bind
  rw [h]

theorem ofOutcome_eq_ok {α : Type} {o : Outcome α} {w w' : World} {a : α} :
    ofOutcome o w = .ok a w' ↔ o = .ok a ∧ w' = w := by
  cases o with
  | ok b =>
    change EStateM.Result.ok b w = _ ↔ _
    constructor
    · intro h
      cases h
      exact ⟨rfl, rfl⟩
    · rintro ⟨h, rfl⟩
      cases h
      rfl
  | error e =>
    change EStateM.Result.error e w = _ ↔ _
    constructor
    · intro h
      cases h
    · rintro ⟨h, -⟩
      cases h

theorem bind_of_eq_error {α γ : Type} {p : Db α} (f : α → Db γ) {w w' : World} {e : Error}
    (h : p w = .error e w') : (p >>= f) w = .error e w' := by
  change EStateM.bind p f w = _
  unfold EStateM.bind
  rw [h]

theorem connection_apply (c : Nat) (w : World) :
    connection c w = .ok (w.connections.getD c default) w := rfl

/-- What a table creation reads, step by step. -/
theorem creationContext_eq_ok_iff {c : Nat} {rt : RecordType} {flags : CreateFlags}
    {w w' : World} {ctx : CreationContext} :
    creationContext c rt flags w = .ok ctx w' ↔ ∃ w₁,
      mappingWith c rt flags w = .ok ctx.mapping w₁ ∧ planIndexes ctx.mapping = .ok ctx.plans ∧
      ctx.ticks = (w₁.connections.getD c default).ticks ∧
      tableInfo c ctx.mapping.tableName w₁ = .ok ctx.existing w' := by
  unfold creationContext
  constructor
  · intro h
    obtain ⟨m, w₁, hm, h₁⟩ := bind_eq_ok h
    obtain ⟨plans, w₂, hp, h₂⟩ := bind_eq_ok h₁
    obtain ⟨hplan, rfl⟩ := ofOutcome_eq_ok.1 hp
    obtain ⟨k, w₃, hk, h₃⟩ := bind_eq_ok h₂
    rw [connection_apply] at hk
    cases hk
    obtain ⟨existing, w₄, hi, h₄⟩ := bind_eq_ok h₃
    cases h₄
    exact ⟨_, hm, hplan, rfl, hi⟩
  · rintro ⟨w₁, hm, hp, ht, hi⟩
    have hof : (ofOutcome (.ok ctx.plans) : Db (List IndexPlan)) = pure ctx.plans := rfl
    rw [bind_of_eq_ok _ hm, hp, hof, pure_bind, bind_of_eq_ok _ (connection_apply c w₁),
      bind_of_eq_ok _ hi, ← ht]
    rfl


theorem createTableWith_of_context {c : Nat} {rt : RecordType} {flags : CreateFlags}
    {w w' : World} {ctx : CreationContext} (h : creationContext c rt flags w = .ok ctx w') :
    createTableWith c rt flags w = (do
      issueAll c ctx.statements
      markCreated c rt
      pure ctx.result) w' := by
  rw [createTableWith_eq_issueAll]
  exact bind_of_eq_ok _ h

end Db

/-! ## The index statements -/

/-- Index planning succeeds exactly when the memberships under each index name agree on
uniqueness, and its plans then group the memberships by index name, losing and repeating none.
A table creation issues, after the table's statements, one `create [unique] index if not exists`
per plan of the mapping it reads, with the plan's columns in their order. -/
theorem indexPlans_group_memberships :
    (∀ m : Mapping,
      ((∃ plans, planIndexes m = .ok plans) ↔ UniqueAgrees m.tableName m.memberships) ∧
      ∀ plans, planIndexes m = .ok plans → GroupsMemberships m.tableName m.memberships plans) ∧
    ∀ (c : Nat) (rt : RecordType) (flags : CreateFlags) (w : World) (ctx : CreationContext)
      (w' : World), Db.creationContext c rt flags w = .ok ctx w' →
      GroupsMemberships ctx.mapping.tableName ctx.mapping.memberships ctx.plans ∧
      Db.createTableWith c rt flags w = (do
        Db.issueAll c (ctx.mapping.tableStatements ctx.ticks ctx.existing ++
          ctx.plans.map fun p => Except.ok (ctx.mapping.indexStatement p))
        Db.markCreated c rt
        pure ctx.result) w' := by
  refine ⟨fun m => ⟨planIndexes_ok_iff_uniqueAgrees m, fun _ => planIndexes_groupsMemberships⟩,
    fun c rt flags w ctx w' h => ⟨?_, Db.createTableWith_of_context h⟩⟩
  obtain ⟨w₁, -, hplans, -⟩ := Db.creationContext_eq_ok_iff.1 h
  exact planIndexes_groupsMemberships hplans

/-- A record type with a two-column index named `by_day`, its columns given out of order, and an
unnamed index on `Day`. -/
def visitType : RecordType :=
  { id := 0, name := "Visit", table :=
    { name := "visit", columns :=
      [{ property := "Id", field := ⟨.int .int64, false⟩, constraints := [.primaryKey] },
       { property := "Day", field := ⟨.int .int32, false⟩,
         constraints := [.indexed { name := some "by_day", order := 2 }, .indexed {}] },
       { property := "Room", field := ⟨.string, true⟩,
         constraints := [.indexed { name := some "by_day", order := 1 }] }] } }

/-- A world with one open connection to a fresh in-memory database. -/
def memoryWorld : World :=
  Db.finalWorld (Db.openConnection { path := some ":memory:" } { engine := ⟨.alone, #[], #[]⟩ })

set_option maxRecDepth 100000 in
theorem visit_indexes_grouped : ∃ ctx w', Db.creationContext 0 visitType .none memoryWorld = .ok ctx w' ∧
    UniqueAgrees ctx.mapping.tableName ctx.mapping.memberships ∧
    GroupsMemberships ctx.mapping.tableName ctx.mapping.memberships ctx.plans := by
  have hok : (match Db.creationContext 0 visitType .none memoryWorld with
      | .ok _ _ => true
      | .error _ _ => false) = true := by
    decide +kernel
  cases hr : Db.creationContext 0 visitType .none memoryWorld with
  | error e w' =>
    rw [hr] at hok
    cases hok
  | ok ctx w' =>
    have hthm := indexPlans_group_memberships
    obtain ⟨-, -, hplans, -⟩ := Db.creationContext_eq_ok_iff.1 hr
    exact ⟨ctx, w', rfl, ((hthm.1 ctx.mapping).1.1 ⟨_, hplans⟩),
      (hthm.2 0 visitType .none memoryWorld ctx w' hr).1⟩

end RecordMap
