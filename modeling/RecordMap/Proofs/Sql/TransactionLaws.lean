import RecordMap.Proofs.Sql.DataStatements

/-!
# What running a statement does to its connection's transaction

A statement that controls no transaction keeps the transaction of the connection that runs it
(`Engine.Kept`): whether one is open, and inside one its savepoints and the committed content,
while a connection outside a transaction keeps nothing of one. The one exception is a write
whose failure is resolved by rolling back: the engine then ends the open transaction, and the
failure says so (`Fault.undo` is `transaction`, `Engine.RolledBack`). `Step.Guards` states this of a
step, and `Engine.run_guards` of every statement that controls no transaction.

The facts the library's transaction handling rests on are gathered as the fields of one
structure over the engine's way of running a prepared statement (`TransactionLaws`): how
`savepoint`, `begin`, `rollback`, `commit`, `release` and `rollback to` change the connection, that
a commit is refused as busy exactly when the transaction wrote while another connection holds a
lock on the file, and what an ordinary statement keeps. The engine here satisfies them
(`Engine.transactionLaws`).
-/

namespace RecordMap.Sql

/-- The engine a step ends in, whether it succeeds or fails. -/
def finalEngine {α : Type} : EStateM.Result Fault Engine α → Engine
  | .ok _ e => e
  | .error _ e => e

/-- Outside a transaction a connection keeps nothing of one: no savepoints and no copy. -/
def Handle.Idle (h : Handle) : Prop := h.autocommit = true → h.savepoints = [] ∧ h.work = none

theorem Handle.idle_ended (h : Handle) : h.ended.Idle := fun _ => ⟨rfl, rfl⟩

/-- Two states of a connection with the same transaction: whether one is open, its savepoints and
its copy, on the same database, open or closed alike. -/
structure Handle.SameTransaction (h h' : Handle) : Prop where
  autocommit : h'.autocommit = h.autocommit
  savepoints : h'.savepoints = h.savepoints
  work : h'.work = h.work
  database : h'.database = h.database
  live : h'.live = h.live

/-- Engine `e'` keeps the transaction connection `i` has in `e`: the connections are the same but
for `i`, still open on the same database; whether a transaction is open is the same; inside one,
so are its savepoints and the committed content; and outside one, the connection still keeps
nothing of one. -/
structure Engine.Kept (i : Nat) (e e' : Engine) : Prop where
  frame : Frame i e e'
  autocommit : (e'.handle i).autocommit = (e.handle i).autocommit
  savepoints : (e.handle i).autocommit = false → (e'.handle i).savepoints = (e.handle i).savepoints
  stores : (e.handle i).autocommit = false → e'.stores = e.stores
  idle : (e.handle i).Idle → (e'.handle i).Idle

/-- Engine `e'` is `e` with the transaction connection `i` had open rolled back whole: nothing
committed changed. -/
structure Engine.RolledBack (i : Nat) (e e' : Engine) : Prop where
  frame : Frame i e e'
  wasOpen : (e.handle i).autocommit = false
  closed : (e'.handle i).autocommit = true
  idle : (e'.handle i).Idle
  stores : e'.stores = e.stores

namespace Engine.Kept

variable {i : Nat} {e e₁ e₂ : Engine}

theorem refl (i : Nat) (e : Engine) : Kept i e e :=
  ⟨Frame.refl i e, rfl, fun _ => rfl, fun _ => rfl, id⟩

theorem trans (h₁ : Kept i e e₁) (h₂ : Kept i e₁ e₂) : Kept i e e₂ where
  frame := h₁.frame.trans h₂.frame
  autocommit := h₂.autocommit.trans h₁.autocommit
  savepoints := fun ha => (h₂.savepoints (h₁.autocommit.trans ha)).trans (h₁.savepoints ha)
  stores := fun ha => (h₂.stores (h₁.autocommit.trans ha)).trans (h₁.stores ha)
  idle := fun hidle => h₂.idle (h₁.idle hidle)

theorem size (h : Kept i e e₁) (hi : i < e.handles.size) : i < e₁.handles.size :=
  h.frame.size ▸ hi

/-- A change of connection `i` that keeps its transaction. -/
theorem updateHandle (hi : i < e.handles.size) {f : Handle → Handle}
    (hf : (e.handle i).SameTransaction (f (e.handle i))) : Kept i e (e.updateHandle i f) := by
  have hself := Engine.handle_updateHandle_self (f := f) hi
  refine ⟨⟨rfl, size_updateHandle, fun _ hj => handle_updateHandle_ne hj, ?_, ?_⟩, ?_, ?_, fun _ => rfl,
    ?_⟩
  · rw [hself, hf.database]
  · rw [hself, hf.live]
  · rw [hself, hf.autocommit]
  · intro _
    rw [hself, hf.savepoints]
  · intro hidle
    rw [hself]
    intro ha
    rw [hf.savepoints, hf.work]
    exact hidle (hf.autocommit ▸ ha)

/-- Outside a transaction, ending one changes nothing that is kept. -/
theorem ended (hi : i < e.handles.size) (ha : (e.handle i).autocommit = true) :
    Kept i e (e.updateHandle i Handle.ended) := by
  have hself := Engine.handle_updateHandle_self (f := Handle.ended) hi
  refine ⟨Frame.updateHandle hi fun _ => ⟨rfl, rfl⟩, ?_, ?_, ?_, fun _ => ?_⟩
  · rw [hself, ha]
    rfl
  · intro hopen
    rw [ha] at hopen
    cases hopen
  · intro hopen
    rw [ha] at hopen
    cases hopen
  · rw [hself]
    exact Handle.idle_ended _

theorem setWork (hi : i < e.handles.size) (ha : (e.handle i).autocommit = false) (s : Store) :
    Kept i e (e.updateHandle i fun h => { h with work := some s }) := by
  have hself := Engine.handle_updateHandle_self (f := fun h => { h with work := some s }) hi
  refine ⟨Frame.updateHandle hi fun _ => ⟨rfl, rfl⟩, by rw [hself], fun _ => by rw [hself],
    fun _ => rfl, fun _ => ?_⟩
  rw [hself]
  intro hopen
  rw [ha] at hopen
  cases hopen

theorem setStores (ha : (e.handle i).autocommit = true) (s : Array Store) :
    Kept i e { e with stores := s } := by
  refine ⟨⟨rfl, rfl, fun _ _ => rfl, rfl, rfl⟩, rfl, fun _ => rfl, fun hopen => ?_, id⟩
  rw [ha] at hopen
  cases hopen

end Engine.Kept

namespace Engine.RolledBack

variable {i : Nat} {e e₁ e₂ : Engine}

theorem of_kept (h₁ : Kept i e e₁) (h₂ : RolledBack i e₁ e₂) : RolledBack i e e₂ :=
  ⟨h₁.frame.trans h₂.frame, h₁.autocommit ▸ h₂.wasOpen, h₂.closed, h₂.idle,
    h₂.stores.trans (h₁.stores (h₁.autocommit ▸ h₂.wasOpen))⟩

theorem ended (h : RolledBack i e e₁) (hi : i < e₁.handles.size) :
    RolledBack i e (e₁.updateHandle i Handle.ended) :=
  ⟨h.frame.trans (Frame.updateHandle hi fun _ => ⟨rfl, rfl⟩), h.wasOpen,
    by rw [Engine.handle_updateHandle_self hi]; rfl,
    by rw [Engine.handle_updateHandle_self hi]; exact Handle.idle_ended _, h.stores⟩

end Engine.RolledBack

/-! ## Steps that keep the transaction -/

namespace Step

/-- A step that keeps the transaction of connection `i`, however it ends. -/
def Keeps (i : Nat) {α : Type} (p : Step α) : Prop :=
  ∀ e, i < e.handles.size → Engine.Kept i e (finalEngine (p e))

/-- A step that keeps the transaction of connection `i`, or fails having rolled back the
transaction that was open, its failure saying so. -/
def Guards (i : Nat) {α : Type} (p : Step α) : Prop :=
  ∀ e, i < e.handles.size → Engine.Kept i e (finalEngine (p e)) ∨
    ∃ f e', p e = .error f e' ∧ f.undo = .transaction ∧ Engine.RolledBack i e e'

variable {i : Nat} {α γ : Type}

theorem endStatement_eq (i : Nat) (e : Engine) :
    endStatement i e =
      .ok () (if (e.handle i).autocommit then e.updateHandle i Handle.ended else e) := by
  unfold endStatement
  rw [bind_of_eq_ok _ (handle_eq i e)]
  by_cases ha : (e.handle i).autocommit = true
  · rw [if_pos ha, if_pos ha, endTransaction_eq, update_eq]
  · rw [if_neg ha, if_neg ha]
    rfl

theorem statement_of_eq_error {body : Step α} {e e₁ : Engine} {f : Fault}
    (hb : body e = .error f e₁) :
    statement i body e = .error f (finalEngine (endStatement i e₁)) := by
  unfold statement
  show EStateM.tryCatch _ _ e = _
  delta EStateM.tryCatch
  beta_reduce
  rw [bind_of_eq_error _ hb]
  show (do Step.endStatement i; MonadExcept.throw f : Step α) e₁ = _
  rw [bind_of_eq_ok _ (endStatement_eq i e₁), endStatement_eq]
  rfl

theorem finalEngine_statement (body : Step α) (e : Engine) :
    finalEngine (statement i body e) = finalEngine (endStatement i (finalEngine (body e))) := by
  cases h : body e with
  | ok a e₁ =>
    rw [statement_of_eq_ok h (endStatement_eq i e₁), endStatement_eq]
    rfl
  | error f e₁ =>
    rw [statement_of_eq_error h]
    rfl

namespace Keeps

theorem pure (a : α) : Keeps i (Pure.pure a : Step α) := fun e _ => Engine.Kept.refl i e

theorem get : Keeps i (MonadState.get : Step Engine) := fun e _ => Engine.Kept.refl i e

theorem throw (f : Fault) : Keeps i (MonadExcept.throw f : Step α) :=
  fun e _ => Engine.Kept.refl i e

theorem bind {p : Step α} {f : α → Step γ} (hp : Keeps i p) (hf : ∀ a, Keeps i (f a)) :
    Keeps i (p >>= f) := by
  intro e hi
  have k₁ := hp e hi
  cases h : p e with
  | ok a e₁ =>
    rw [h] at k₁
    rw [bind_of_eq_ok _ h]
    exact k₁.trans (hf a e₁ (k₁.size hi))
  | error x e₁ =>
    rw [h] at k₁
    rw [bind_of_eq_error _ h]
    exact k₁

theorem update {f : Handle → Handle} (hf : ∀ h : Handle, h.SameTransaction (f h)) : Keeps i (update i f) := by
  intro e hi
  rw [update_eq]
  exact Engine.Kept.updateHandle hi (hf _)

theorem handle : Keeps i (handle i) := Keeps.bind Keeps.get fun _ => Keeps.pure _

theorem lock (l : Lock) : Keeps i (Step.update i fun h => { h with lock := l }) :=
  Keeps.update fun _ => ⟨rfl, rfl, rfl, rfl, rfl⟩

theorem takeShared : Keeps i (takeShared i) := by
  unfold Step.takeShared
  dsimp only
  repeat' first
    | exact Keeps.get
    | exact Keeps.pure _
    | exact Keeps.throw _
    | exact lock _
    | refine Keeps.bind ?_ fun _ => ?_
    | split

theorem takeExclusive : Keeps i (takeExclusive i) := by
  unfold Step.takeExclusive
  dsimp only
  repeat' first
    | exact Keeps.get
    | exact Keeps.pure _
    | exact Keeps.throw _
    | exact lock _
    | refine Keeps.bind ?_ fun _ => ?_
    | split

theorem takeReserved : Keeps i (takeReserved i) := by
  unfold Step.takeReserved
  dsimp only
  repeat' first
    | exact Keeps.get
    | exact Keeps.pure _
    | exact Keeps.throw _
    | exact handle
    | exact takeShared
    | exact lock _
    | exact Keeps.update fun _ => ⟨rfl, rfl, rfl, rfl, rfl⟩
    | refine Keeps.bind ?_ fun _ => ?_
    | split

theorem lockReads (tables : List String) : Keeps i (lockReads i tables) := by
  unfold Step.lockReads
  repeat' first
    | exact Keeps.get
    | exact Keeps.pure _
    | exact Keeps.throw _
    | exact Keeps.update fun _ => ⟨rfl, rfl, rfl, rfl, rfl⟩
    | refine Keeps.bind ?_ fun _ => ?_
    | split

theorem lockWrites (tables : List String) : Keeps i (lockWrites i tables) := by
  unfold Step.lockWrites
  dsimp only
  repeat' first
    | exact Keeps.get
    | exact Keeps.pure _
    | exact Keeps.throw _
    | exact Keeps.update fun _ => ⟨rfl, rfl, rfl, rfl, rfl⟩
    | refine Keeps.bind ?_ fun _ => ?_
    | split

theorem checkWritable : Keeps i (checkWritable i) := by
  unfold Step.checkWritable
  exact bind handle fun _ => by
    split
    · exact throw _
    · exact pure _

/-- Outside a transaction, publishing changes only the committed content. -/
theorem publish_of_autocommit {e : Engine} (hi : i < e.handles.size)
    (ha : (e.handle i).autocommit = true) (s : Store) :
    Engine.Kept i e (finalEngine (publish i s e)) := by
  have k₁ := takeExclusive e hi
  unfold Step.publish
  cases hx : Step.takeExclusive i e with
  | error f e₁ =>
    rw [hx] at k₁
    rw [bind_of_eq_error _ hx]
    exact k₁
  | ok u e₁ =>
    rw [hx] at k₁
    rw [bind_of_eq_ok _ hx, bind_of_eq_ok _ (handle_eq i e₁)]
    exact k₁.trans (Engine.Kept.setStores (k₁.autocommit.trans ha) _)

theorem keep (s : Store) : Keeps i (keep i s) := by
  intro e hi
  unfold Step.keep
  rw [bind_of_eq_ok _ (handle_eq i e)]
  by_cases ha : (e.handle i).autocommit = true
  · rw [if_pos ha]
    exact publish_of_autocommit hi ha s
  · rw [if_neg ha]
    exact Engine.Kept.setWork hi (Bool.eq_false_iff.2 ha) s

theorem endStatement : Keeps i (endStatement i) := by
  intro e hi
  rw [endStatement_eq]
  by_cases ha : (e.handle i).autocommit = true
  · rw [if_pos ha]
    exact Engine.Kept.ended hi ha
  · rw [if_neg ha]
    exact Engine.Kept.refl i e

theorem statement {body : Step α} (hb : Keeps i body) : Keeps i (statement i body) := by
  intro e hi
  have k := hb e hi
  rw [finalEngine_statement]
  exact k.trans (endStatement _ (k.size hi))

theorem pragma (p : PragmaPlan) : Keeps i (pragma i p) := by
  unfold Step.pragma
  dsimp only
  repeat' first
    | exact Keeps.get
    | exact Keeps.pure _
    | exact Keeps.throw _
    | exact handle
    | exact takeShared
    | exact takeReserved
    | exact checkWritable
    | exact keep _
    | exact Keeps.update fun _ => ⟨rfl, rfl, rfl, rfl, rfl⟩
    | refine Keeps.bind ?_ fun _ => ?_
    | split

end Keeps

namespace Guards

theorem of_keeps {p : Step α} (hp : Keeps i p) : Guards i p := fun e hi => Or.inl (hp e hi)

theorem bind {p : Step α} {f : α → Step γ} (hp : Guards i p) (hf : ∀ a, Guards i (f a)) :
    Guards i (p >>= f) := by
  intro e hi
  cases h : p e with
  | ok a e₁ =>
    have k₁ : Engine.Kept i e e₁ := by
      rcases hp e hi with k | ⟨x, e', he, -, -⟩
      · rw [h] at k
        exact k
      · rw [h] at he
        cases he
    rw [bind_of_eq_ok _ h]
    rcases hf a e₁ (k₁.size hi) with k₂ | ⟨x, e', he, hu, hr⟩
    · exact Or.inl (k₁.trans k₂)
    · exact Or.inr ⟨x, e', he, hu, hr.of_kept k₁⟩
  | error x e₁ =>
    rw [bind_of_eq_error _ h]
    rcases hp e hi with k | ⟨x', e', he, hu, hr⟩
    · rw [h] at k
      exact Or.inl k
    · rw [h] at he
      cases he
      exact Or.inr ⟨_, _, rfl, hu, hr⟩

theorem statement {body : Step α} (hb : Guards i body) : Guards i (statement i body) := by
  intro e hi
  rcases hb e hi with k | ⟨f, e₁, h, hu, hr⟩
  · refine Or.inl ?_
    rw [finalEngine_statement]
    exact k.trans (Keeps.endStatement _ (k.size hi))
  · -- the transaction is over, so the statement ends it again, which changes nothing committed
    have hi₁ : i < e₁.handles.size := hr.frame.size ▸ hi
    refine Or.inr ⟨_, _, statement_of_eq_error h, hu, ?_⟩
    show Engine.RolledBack i e (finalEngine (endStatement i e₁))
    rw [endStatement_eq, if_pos hr.closed]
    exact hr.ended hi₁

/-- A failure that rolls back the transaction ends it, and says so. -/
theorem rollBack (f : Fault) (hf : f.undo = .transaction) :
    Guards i (endTransaction i >>= fun _ => (MonadExcept.throw f : Step α)) := by
  intro e hi
  have hrun : (endTransaction i >>= fun _ => (MonadExcept.throw f : Step α)) e =
      .error f (e.updateHandle i Handle.ended) := by
    rw [endTransaction_eq, bind_of_eq_ok _ (update_eq _ _ _)]
    rfl
  rw [hrun]
  by_cases ha : (e.handle i).autocommit = true
  · -- outside a transaction there was nothing to roll back
    exact Or.inl (Engine.Kept.ended hi ha)
  · have hself := Engine.handle_updateHandle_self (f := Handle.ended) hi
    refine Or.inr ⟨_, _, rfl, hf, ⟨Engine.Frame.updateHandle hi fun _ => ⟨rfl, rfl⟩,
      Bool.eq_false_iff.2 ha, by rw [hself]; rfl, by rw [hself]; exact Handle.idle_ended _, rfl⟩⟩

/-- A write keeps the transaction, unless its failure is resolved by rolling it back. -/
theorem write (w : WritePlan) (params : Array Datum) : Guards i (write i w params) := by
  unfold Step.write
  dsimp only
  refine bind (of_keeps Keeps.checkWritable) fun _ => bind (of_keeps Keeps.takeReserved) fun _ =>
    bind (of_keeps Keeps.get) fun _ => bind (of_keeps (Keeps.lockWrites _)) fun _ =>
    bind (of_keeps Keeps.get) fun _ => bind (of_keeps Keeps.handle) fun _ => ?_
  split
  · exact of_keeps (Keeps.bind (Keeps.keep _) fun _ =>
      Keeps.bind (Keeps.update fun _ => ⟨rfl, rfl, rfl, rfl, rfl⟩) fun _ => Keeps.pure _)
  · rename_i f st _
    refine bind (of_keeps (Keeps.update fun _ => ⟨rfl, rfl, rfl, rfl, rfl⟩)) fun _ => ?_
    -- what the failure undoes decides what is kept
    cases hu : Fault.undone f st.failure with
    | nothing =>
      exact of_keeps (Keeps.bind (Keeps.keep _) fun _ =>
        Keeps.bind (Keeps.update fun _ => ⟨rfl, rfl, rfl, rfl, rfl⟩) fun _ => Keeps.throw _)
    | transaction =>
      exact bind (of_keeps (Keeps.update fun _ => ⟨rfl, rfl, rfl, rfl, rfl⟩)) fun _ =>
        rollBack { f with undo := .transaction } rfl
    | statement =>
      exact of_keeps (Keeps.bind (Keeps.update fun _ => ⟨rfl, rfl, rfl, rfl, rfl⟩) fun _ =>
        Keeps.throw _)

end Guards

end Step

/-! ## Statements that control no transaction -/

/-- Every plan but those of transaction control keeps the transaction of the connection that runs
it, unless a write's failure is resolved by rolling back. -/
theorem Engine.runPlan_guards {i : Nat} {plan : Plan} (names : List String) (params : Array Datum)
    (hp : plan.controlsTransaction = false) : Step.Guards i (Engine.runPlan i plan names params) := by
  unfold Engine.runPlan
  dsimp only
  cases plan with
  | write w =>
    exact Step.Guards.statement (Step.Guards.bind (Step.Guards.write w params) fun _ =>
      Step.Guards.of_keeps (Step.Keeps.pure _))
  | begin _ | commit | rollback | savepoint _ | release _ | rollbackTo _ => cases hp
  | _ =>
    -- the other plans only read, lock and keep what they write
    refine Step.Guards.of_keeps ?_
    repeat' first
      | exact Step.Keeps.get
      | exact Step.Keeps.pure _
      | exact Step.Keeps.throw _
      | exact Step.Keeps.handle
      | exact Step.Keeps.takeShared
      | exact Step.Keeps.takeReserved
      | exact Step.Keeps.lockReads _
      | exact Step.Keeps.checkWritable
      | exact Step.Keeps.pragma _
      | exact Step.Keeps.keep _
      | exact Step.Keeps.update fun _ => ⟨rfl, rfl, rfl, rfl, rfl⟩
      | refine Step.Keeps.statement ?_
      | refine Step.Keeps.bind ?_ fun _ => ?_
      | split

/-- A statement that controls no transaction, compiled again or not, keeps the transaction of the
connection that runs it, unless a write's failure is resolved by rolling back. -/
theorem Engine.run_guards {i : Nat} {p : Prepared} (params : Array Datum)
    (hs : p.statement.any Statement.controlsTransaction = false)
    (hp : p.plan.controlsTransaction = false) : Step.Guards i (Engine.run i p params) := by
  unfold Engine.run
  refine Step.Guards.bind (Step.Guards.of_keeps Step.Keeps.get) fun e => ?_
  dsimp only
  split
  · rw [pure_bind]
    exact Engine.runPlan_guards _ params hp
  · split
    · rename_i r hr
      rw [pure_bind]
      exact Engine.runPlan_guards _ params (compileStatement_plan _ _ hs r hr)
    · -- a statement that no longer compiles fails before it runs
      exact fun e _ => Or.inl (Engine.Kept.refl i e)

/-! ## The laws -/

/-- What a commit of the transaction of connection `i` in engine `e` does, as the statement's
result `r`: refused while deferred foreign keys are violated, changing nothing; refused as busy
when the transaction wrote while another connection holds a lock on the file, the connection left
holding the pending lock; and otherwise the transaction ended, what the connection saw now
committed. -/
def Engine.Commits (i : Nat) (e : Engine) (columns : List String)
    (r : EStateM.Result Fault Engine Output) : Prop :=
  if 0 < (e.handle i).deferredViolations then r = .error Fault.foreignKey e
  else if ((e.handle i).work.isSome && e.lockedOut i) = true then
    r = .error Fault.busy (e.updateHandle i fun h => { h with lock := .pending })
  else ∃ e', r = .ok ⟨columns, [], none⟩ e' ∧ e'.handle i = (e.handle i).ended ∧ Engine.Frame i e e' ∧
    e'.stores.size = e.stores.size ∧ ((e.handle i).database < e.stores.size → e'.view i = e.view i)

theorem Engine.commits_commitWork {e : Engine} {i : Nat} (hi : i < e.handles.size)
    (columns : List String) :
    Engine.Commits i e columns (if 0 < (e.handle i).deferredViolations then .error Fault.foreignKey e
      else (do Step.commitWork i; pure (⟨columns, [], none⟩ : Output)) e) := by
  unfold Engine.Commits
  by_cases hd : 0 < (e.handle i).deferredViolations
  · rw [if_pos hd, if_pos hd]
  rw [if_neg hd, if_neg hd]
  by_cases hg : ((e.handle i).work.isSome && e.lockedOut i) = true
  · -- the commit needs the exclusive lock, which another connection's lock keeps it from
    rw [if_pos hg]
    rw [Bool.and_eq_true] at hg
    exact Step.bind_of_eq_error _ (Step.commitWork_of_lockedOut hg.1 hg.2)
  · rw [if_neg hg]
    obtain ⟨e', hc, he', hf, hs, hv⟩ := Step.commitWork_of_granted hi (Bool.eq_false_iff.2 hg)
    exact ⟨e', Step.bind_of_eq_ok _ hc, he', hf, hs, hv⟩

/-- The facts about running a prepared statement that the library's handling of transactions
rests on, each about a statement compiled against the current schema of its connection. -/
structure TransactionLaws (run : Nat → Prepared → Array Datum → Step Output) : Prop where
  /-- A `savepoint` pushes a savepoint, opening a transaction if none was open. -/
  savepoint : ∀ {e : Engine} {i : Nat} {p : Prepared} {name : String} (params : Array Datum),
    (e.view i).schemaVersion = p.schema → p.plan = .savepoint name →
    run i p params e = .ok ⟨p.columns, [], none⟩ (e.updateHandle i (Handle.pushSavepoint name))
  /-- A deferred `begin` outside a transaction opens one, taking no lock. -/
  begin : ∀ {e : Engine} {i : Nat} {p : Prepared} (params : Array Datum),
    (e.view i).schemaVersion = p.schema → p.plan = .begin .deferred →
    (e.handle i).autocommit = true →
    run i p params e =
      .ok ⟨p.columns, [], none⟩ (e.updateHandle i fun h => { h with autocommit := false })
  /-- A `rollback` inside a transaction ends it. -/
  rollback : ∀ {e : Engine} {i : Nat} {p : Prepared} (params : Array Datum),
    (e.view i).schemaVersion = p.schema → p.plan = .rollback → (e.handle i).autocommit = false →
    run i p params e = .ok ⟨p.columns, [], none⟩ (e.updateHandle i Handle.ended)
  /-- A `commit` inside a transaction commits it, or is refused while deferred foreign keys are
  violated, or as busy. -/
  commit : ∀ {e : Engine} {i : Nat} {p : Prepared} (params : Array Datum), i < e.handles.size →
    (e.view i).schemaVersion = p.schema → p.plan = .commit → (e.handle i).autocommit = false →
    Engine.Commits i e p.columns (run i p params e)
  /-- `release` and `rollback to` a name no savepoint has fail and change nothing. -/
  unknownSavepoint : ∀ {e : Engine} {i : Nat} {p : Prepared} {name : String}
    (params : Array Datum), (e.view i).schemaVersion = p.schema →
    (p.plan = .release name ∨ p.plan = .rollbackTo name) →
    Step.findSavepoint (e.handle i) name = none → ∃ msg, run i p params e = .error (Fault.error msg) e
  /-- Releasing a savepoint that did not open the transaction drops it and every newer one. -/
  releaseInner : ∀ {e : Engine} {i : Nat} {p : Prepared} {name : String} {sp : Savepoint} {k : Nat}
    (params : Array Datum), (e.view i).schemaVersion = p.schema → p.plan = .release name →
    Step.findSavepoint (e.handle i) name = some (sp, k) → sp.begins = false →
    run i p params e = .ok ⟨p.columns, [], none⟩
      (e.updateHandle i fun h => { h with savepoints := h.savepoints.drop (k + 1) })
  /-- Releasing the savepoint that opened the transaction commits it, as `commit` does. -/
  releaseOuter : ∀ {e : Engine} {i : Nat} {p : Prepared} {name : String} {sp : Savepoint} {k : Nat}
    (params : Array Datum), i < e.handles.size → (e.view i).schemaVersion = p.schema →
    p.plan = .release name → Step.findSavepoint (e.handle i) name = some (sp, k) →
    sp.begins = true → Engine.Commits i e p.columns (run i p params e)
  /-- `rollback to` a savepoint drops the newer ones, and the connection sees again the copy the
  savepoint kept, or the committed content when the transaction had not written by then. -/
  rollbackTo : ∀ {e : Engine} {i : Nat} {p : Prepared} {name : String} {sp : Savepoint} {k : Nat}
    (params : Array Datum), (e.view i).schemaVersion = p.schema → p.plan = .rollbackTo name →
    Step.findSavepoint (e.handle i) name = some (sp, k) →
    run i p params e = .ok ⟨p.columns, [], none⟩ (e.updateHandle i fun h =>
      { h with work := sp.snapshot.or ((e.handle i).work.map fun _ =>
                 e.stores.getD (e.handle i).database Store.empty),
               savepoints := h.savepoints.drop k, deferredViolations := sp.deferred })
  /-- A statement that controls no transaction keeps the transaction, unless a write's failure
  is resolved by rolling it back. -/
  ordinary : ∀ {i : Nat} {p : Prepared} (params : Array Datum),
    p.statement.any Statement.controlsTransaction = false → p.plan.controlsTransaction = false →
    Step.Guards i (run i p params)

/-- The engine here satisfies the laws. -/
theorem Engine.transactionLaws : TransactionLaws Engine.run where
  savepoint params hv hp := Engine.run_savepoint params hv hp
  begin params hv hp ha := Engine.run_begin params hv hp ha
  rollback params hv hp ha := Engine.run_rollback params hv hp ha
  commit params hi hv hp ha := by
    rw [Engine.run_commit params hv hp ha]
    exact Engine.commits_commitWork hi _
  unknownSavepoint params hv hp hf := Engine.run_unknown_savepoint params hv hp hf
  releaseInner params hv hp hf hb := Engine.run_release_inner params hv hp hf hb
  releaseOuter params hi hv hp hf hb := by
    rw [Engine.run_release_outer params hv hp hf hb]
    exact Engine.commits_commitWork hi _
  rollbackTo params hv hp hf := Engine.run_rollbackTo params hv hp hf
  ordinary params hs hp := Engine.run_guards params hs hp

end RecordMap.Sql
