import RecordMap.Proofs.Database.TransactionDepth

/-!
# Rolling back to a savepoint restores the depth and the content

A savepoint made at depth `d` stays live while the depth is above `d`, the savepoints from it
down are those it was made on, and rolling back to it would show what the connection saw when it
was made (`Db.SavepointLive`); a program that keeps every live savepoint live neither ends the
transaction, nor unwinds past a savepoint it did not make, nor changes the committed content under
one (`Db.KeepsSavepoints`).

`rollback to` a live savepoint brings the depth back to `d`, the engine's savepoints back to
those below it, and the content the connection sees back to what it saw, at depth 0 as well as
inside a transaction (`Db.rollbackTo_live`); releasing it keeps the content
(`Db.release_live_inner`, `Db.release_live_outer`). So `runInTransaction` around a body that keeps
the savepoints it did not make either ends as the body does, with the depth and savepoints as they
were and the body's writes kept, or fails with the depth, savepoints and content as they were. The
one exception is a call begun at depth 0 whose closing release, which commits, is refused, by
deferred foreign-key violations or as busy: the call fails while the transaction stays open with
the body's writes (`Db.runInTransaction_restores_state`). Calls of `runInTransaction` nest: one
around a body that keeps the savepoints keeps them too (`Db.runInTransaction_keepsSavepoints`).
-/

namespace RecordMap

/-- The committed content of the database connection `i` is on. -/
def Sql.Engine.committed (e : Sql.Engine) (i : Nat) : Sql.Store :=
  e.stores.getD (e.handle i).database Sql.Store.empty

open RecordMap.Sql (Engine Handle Fault Savepoint)

namespace Db

/-- The savepoint `sp`, made at depth `d` on the savepoints `below` where the connection saw `V`,
is live on connection `c` (engine handle `i`): the depth tracks the engine and is above `d`, the
savepoints from `sp` down are those it was made on, its name reads as `d`, and rolling back to it
would show `V` again. -/
structure SavepointLive (c i d : Nat) (sp : Savepoint) (below : List Savepoint) (V : Sql.Store)
    (w : World) : Prop where
  handle : (w.connections.getD c default).handle = some i
  lt_size : i < w.engine.handles.size
  tracks : (w.engine.handle i).Tracks (w.connections.getD c default).depth
  above : d < (w.connections.getD c default).depth
  stack : (w.engine.handle i).savepoints.drop ((w.connections.getD c default).depth - 1 - d) =
    sp :: below
  name : savepointDepth? sp.name = some d
  /-- The savepoint that opened the transaction kept no copy: outside a transaction there is none. -/
  opened : sp.begins = true → sp.snapshot = none
  /-- Rolling back shows the savepoint's copy, or the committed content when it kept none. -/
  content : sp.snapshot.getD (w.engine.committed i) = V
  database_lt : (w.engine.handle i).database < w.engine.stores.size

/-- A program that keeps every live savepoint of connection `c` live: it neither ends the
transaction, nor unwinds past a savepoint it did not make, nor changes what one would restore. -/
def KeepsSavepoints {α : Type} (c : Nat) (p : Db α) : Prop :=
  ∀ i d sp below V w, SavepointLive c i d sp below V w →
    SavepointLive c i d sp below V (finalWorld (p w))

/-- Connection `c` (engine handle `i`) is at depth `d`, tracking the engine, whose savepoints for
it are `S`, on a database the engine has. -/
structure AtDepth (c i d : Nat) (S : List Savepoint) (w : World) : Prop where
  handle : (w.connections.getD c default).handle = some i
  lt_size : i < w.engine.handles.size
  depth : (w.connections.getD c default).depth = d
  tracks : (w.engine.handle i).Tracks d
  savepoints : (w.engine.handle i).savepoints = S
  database_lt : (w.engine.handle i).database < w.engine.stores.size

theorem AtDepth.depthTracks {c i d : Nat} {S : List Savepoint} {w : World} (h : AtDepth c i d S w) :
    DepthTracks c w :=
  ⟨i, h.handle, h.lt_size, h.depth ▸ h.tracks⟩

namespace SavepointLive

variable {c i d : Nat} {sp : Savepoint} {below : List Savepoint} {V : Sql.Store} {w : World}

theorem depthTracks (hl : SavepointLive c i d sp below V w) : DepthTracks c w :=
  ⟨i, hl.handle, hl.lt_size, hl.tracks⟩

theorem getElem? (hl : SavepointLive c i d sp below V w) :
    (w.engine.handle i).savepoints[(w.connections.getD c default).depth - 1 - d]? = some sp := by
  have := congrArg (·[0]?) hl.stack
  simpa using this

/-- Under its own name a live savepoint is the one found: names of other depths differ. -/
theorem find (hl : SavepointLive c i d sp below V w) :
    Sql.Step.findSavepoint (w.engine.handle i) sp.name =
      some (sp, (w.connections.getD c default).depth - 1 - d) := by
  have hmem : (sp, (w.connections.getD c default).depth - 1 - d) ∈
      (w.engine.handle i).savepoints.zipIdx := by
    rw [List.mem_zipIdx_iff_getElem?]
    exact hl.getElem?
  cases hf : Sql.Step.findSavepoint (w.engine.handle i) sp.name with
  | none =>
    unfold Sql.Step.findSavepoint at hf
    have := List.find?_eq_none.1 hf _ hmem
    simp [Sql.sameName] at this
  | some found =>
    obtain ⟨sp', k⟩ := found
    obtain ⟨hk, hsp, hd⟩ := hl.tracks.find_depth hl.name hf
    have hk' : k = (w.connections.getD c default).depth - 1 - d := by
      have := hl.tracks.count
      omega
    subst hk'
    have := hl.getElem?
    rw [List.getElem?_eq_getElem hk, hsp, Option.some.injEq] at this
    rw [this]

theorem drop_succ (hl : SavepointLive c i d sp below V w) :
    (w.engine.handle i).savepoints.drop ((w.connections.getD c default).depth - 1 - d + 1) =
      below := by
  rw [← List.drop_drop, hl.stack]
  rfl

theorem begins_iff (hl : SavepointLive c i d sp below V w) : sp.begins = true ↔ d = 0 := by
  have hk : (w.connections.getD c default).depth - 1 - d < (w.engine.handle i).savepoints.length :=
    (List.getElem?_eq_some_iff.1 hl.getElem?).1
  have hsp := (List.getElem?_eq_some_iff.1 hl.getElem?).2
  rw [← hsp, hl.tracks.begins _ hk]
  have := hl.above
  omega

/-- A world at a depth above the savepoint's, whose savepoints hold it over the same ones, and with
the same committed content, keeps the savepoint live. -/
theorem of_atDepth {w' : World} {D : Nat} {S : List Savepoint} (hl : SavepointLive c i d sp below V w)
    (hat : AtDepth c i D S w') (hstack : S.drop (D - 1 - d) = sp :: below) (hD : d < D)
    (hstores : w'.engine.committed i = w.engine.committed i) :
    SavepointLive c i d sp below V w' where
  handle := hat.handle
  lt_size := hat.lt_size
  tracks := hat.depth ▸ hat.tracks
  above := hat.depth ▸ hD
  stack := by rw [hat.depth, hat.savepoints]; exact hstack
  name := hl.name
  opened := hl.opened
  content := by rw [hstores]; exact hl.content
  database_lt := hat.database_lt

end SavepointLive

section Calls

variable {c i : Nat} {w : World}

/-- Making a savepoint changes neither the stores nor the database the connection is on. -/
theorem saveTransactionPoint_frame (hh : (w.connections.getD c default).handle = some i)
    (hi : i < w.engine.handles.size) {token : String} {w' : World}
    (hs : saveTransactionPoint c w = .ok token w') :
    w'.engine.stores = w.engine.stores ∧ (w'.engine.handle i).database = (w.engine.handle i).database := by
  obtain ⟨r, w'', hs', -, he⟩ := saveTransactionPoint_eq hh
  rw [hs] at hs'
  obtain ⟨-, rfl⟩ := EStateM.Result.ok.inj hs'
  rw [he, Engine.handle_updateHandle_self hi]
  exact ⟨rfl, rfl⟩

theorem saveTransactionPoint_committed (hh : (w.connections.getD c default).handle = some i)
    (hi : i < w.engine.handles.size) {token : String} {w' : World}
    (hs : saveTransactionPoint c w = .ok token w') : w'.engine.committed i = w.engine.committed i := by
  obtain ⟨hstores, hdb⟩ := saveTransactionPoint_frame hh hi hs
  unfold Engine.committed
  rw [hstores, hdb]

/-- A savepoint made where the depth tracks the engine is live, named for the depth it was made
at, on the savepoints there were, restoring what the connection saw. -/
theorem saveTransactionPoint_live (hh : (w.connections.getD c default).handle = some i)
    (hi : i < w.engine.handles.size)
    (ht : (w.engine.handle i).Tracks (w.connections.getD c default).depth)
    (hd : (w.connections.getD c default).depth ≤ maxDepthCount)
    (hdb : (w.engine.handle i).database < w.engine.stores.size) :
    ∃ (r : Nat) (w' : World), saveTransactionPoint c w =
        .ok ("S" ++ toString r ++ "D" ++ toString (w.connections.getD c default).depth) w' ∧
      SavepointLive c i (w.connections.getD c default).depth
        ⟨"S" ++ toString r ++ "D" ++ toString (w.connections.getD c default).depth,
          (w.engine.handle i).work, (w.engine.handle i).autocommit,
          (w.engine.handle i).deferredViolations⟩ (w.engine.handle i).savepoints
        (w.engine.view i) w' := by
  obtain ⟨r, w', hs, hh', hd', hi', he'⟩ := saveTransactionPoint_state hh hi
  -- making the savepoint changes only the connection's state, not its database or the stores
  obtain ⟨hstores, hdb'⟩ := saveTransactionPoint_frame hh hi hs
  refine ⟨r, w', hs, hh', hi', ?_, ?_, ?_, ?_, ht.idle, ?_, ?_⟩
  · rw [he', hd']
    exact ht.pushed r
  · rw [hd']
    exact Nat.lt_succ_self _
  · rw [hd', he', Nat.add_sub_cancel, Nat.sub_self]
    rfl
  · rw [savepointDepth?_madeName, if_pos hd]
  · show (w.engine.handle i).work.getD (w'.engine.committed i) = w.engine.view i
    rw [saveTransactionPoint_committed hh hi hs]
    rfl
  · rw [hdb', hstores]
    exact hdb

/-- Making a savepoint keeps every live savepoint live. -/
theorem saveTransactionPoint_keeps_live {d : Nat} {sp : Savepoint} {below : List Savepoint}
    {V : Sql.Store} (hl : SavepointLive c i d sp below V w) :
    SavepointLive c i d sp below V (finalWorld (saveTransactionPoint c w)) := by
  obtain ⟨r, w', hs, hh', hd', hi', he'⟩ := saveTransactionPoint_state hl.handle hl.lt_size
  obtain ⟨hstores, hdb'⟩ := saveTransactionPoint_frame hl.handle hl.lt_size hs
  rw [hs]
  refine ⟨hh', hi', ?_, ?_, ?_, hl.name, hl.opened, ?_, ?_⟩
  · show (w'.engine.handle i).Tracks (w'.connections.getD c default).depth
    rw [he', hd']
    exact hl.tracks.pushed r
  · show d < (w'.connections.getD c default).depth
    rw [hd']
    exact Nat.lt_succ_of_lt hl.above
  · -- the new savepoint sits on top, one place above the live one
    show (w'.engine.handle i).savepoints.drop ((w'.connections.getD c default).depth - 1 - d) =
      sp :: below
    have := hl.above
    rw [he', hd', show (w.connections.getD c default).depth + 1 - 1 - d =
      (w.connections.getD c default).depth - 1 - d + 1 by omega]
    exact hl.stack
  · show sp.snapshot.getD (w'.engine.committed i) = V
    rw [saveTransactionPoint_committed hl.handle hl.lt_size hs]
    exact hl.content
  · show (w'.engine.handle i).database < w'.engine.stores.size
    rw [hdb', hstores]
    exact hl.database_lt

variable {d : Nat} {sp : Savepoint} {below : List Savepoint} {V : Sql.Store}

/-- `rollback to` a live savepoint brings the depth back to the one it was made at, the engine's
savepoints back to those below it, and the content the connection sees back to what it saw when
the savepoint was made. Inside the transaction the connection counts again the deferred violations
the savepoint counted, and nothing committed changes. -/
theorem rollbackTo_live (hl : SavepointLive c i d sp below V w) :
    AtDepth c i d below (finalWorld (rollbackTo c sp.name w)) ∧
      (finalWorld (rollbackTo c sp.name w)).engine.view i = V ∧
      (d ≠ 0 → ((finalWorld (rollbackTo c sp.name w)).engine.handle i).deferredViolations =
          sp.deferred ∧ (finalWorld (rollbackTo c sp.name w)).engine.committed i =
            w.engine.committed i) := by
  obtain ⟨e', hw', hi', ht', hs', hinner, hcontent⟩ :=
    rollbackTo_found hl.handle hl.lt_size hl.tracks hl.name hl.above hl.find
  obtain ⟨hdb', hview⟩ := hcontent hl.opened hl.database_lt
  rw [hw']
  refine ⟨⟨World.handle_withDepth.trans hl.handle, hi',
    World.depth_withDepth (World.lt_size_of_handle hl.handle), ht', by rw [hs', hl.drop_succ], hdb'⟩,
    hview.trans hl.content, fun hd => ?_⟩
  obtain ⟨hdef, hst, hdb⟩ := hinner (Bool.eq_false_iff.2 fun hb => hd (hl.begins_iff.1 hb))
  refine ⟨hdef, ?_⟩
  show e'.stores.getD (e'.handle i).database Sql.Store.empty = _
  rw [hst, hdb]
  rfl

/-- Releasing a live savepoint inside a transaction brings the depth back to the one it was made
at and the engine's savepoints back to those below it, and keeps the content. -/
theorem release_live_inner (hl : SavepointLive c i d sp below V w) (hd : d ≠ 0) :
    ∃ w', release c sp.name w = .ok () w' ∧ AtDepth c i d below w' ∧
      w'.engine.view i = w.engine.view i ∧ w'.engine.committed i = w.engine.committed i := by
  have hb : sp.begins = false := Bool.eq_false_iff.2 fun hb => hd (hl.begins_iff.1 hb)
  have hk := (List.getElem?_eq_some_iff.1 hl.getElem?).1
  have hinner := hl.tracks.succ_lt_of_begins_false hk
    (by rw [(List.getElem?_eq_some_iff.1 hl.getElem?).2]; exact hb)
  have := hl.above
  refine ⟨_, release_inner hl.handle hl.name hl.above hl.find hb,
    ⟨World.handle_withDepth.trans hl.handle, by simpa using hl.lt_size,
      World.depth_withDepth (World.lt_size_of_handle hl.handle), ?_, ?_, ?_⟩, ?_, ?_⟩
  · have hdepth : (w.connections.getD c default).depth -
        ((w.connections.getD c default).depth - 1 - d + 1) = d := by omega
    have hdrop := hl.tracks.drop hk hinner
    rw [hdepth] at hdrop
    rw [Engine.handle_updateHandle_self hl.lt_size]
    exact hdrop
  · rw [Engine.handle_updateHandle_self hl.lt_size]
    exact hl.drop_succ
  · rw [Engine.handle_updateHandle_self hl.lt_size]
    exact hl.database_lt
  · simp only [Engine.view, Engine.handle_updateHandle_self hl.lt_size, Engine.stores_updateHandle]
  · simp only [Engine.committed, Engine.handle_updateHandle_self hl.lt_size,
      Engine.stores_updateHandle]

end Calls

/-! ## `runInTransaction` -/

section Runs

variable {β ε α : Type} {c : Nat} (lift : Error → ε) {body : Db (β × Except ε α)} {w w₁ w₂ : World}
  {token : String} (hs : saveTransactionPoint c w = .ok token w₁)
include hs

theorem runInTransaction_of_throw {e : Error} (hb : body w₁ = .error e w₂) :
    runInTransaction c lift body w = .error e (finalWorld (rollbackTo c token w₂)) := by
  unfold runInTransaction
  rw [bind_of_eq_ok _ hs, bind_of_eq_ok _ (attempt_of_eq_error hb)]
  dsimp only
  rw [bind_of_eq_ok _ (quietly_apply _ w₂)]
  rfl

theorem runInTransaction_of_failure {b : β} {e : ε} (hb : body w₁ = .ok (b, .error e) w₂) :
    runInTransaction c lift body w = .ok (b, .error e) (finalWorld (rollbackTo c token w₂)) := by
  unfold runInTransaction
  rw [bind_of_eq_ok _ hs, bind_of_eq_ok _ (attempt_of_eq_ok hb)]
  dsimp only
  rw [bind_of_eq_ok _ (quietly_apply _ w₂)]
  rfl

theorem runInTransaction_of_release_ok {b : β} {a : α} {w₃ : World}
    (hb : body w₁ = .ok (b, .ok a) w₂) (hr : release c token w₂ = .ok () w₃) :
    runInTransaction c lift body w = .ok (b, .ok a) w₃ := by
  unfold runInTransaction
  rw [bind_of_eq_ok _ hs, bind_of_eq_ok _ (attempt_of_eq_ok hb)]
  exact (bind_of_eq_ok _ (attempt_of_eq_ok hr)).trans rfl

theorem runInTransaction_of_release_error {b : β} {a : α} {e : Error} {w₃ : World}
    (hb : body w₁ = .ok (b, .ok a) w₂) (hr : release c token w₂ = .error e w₃) :
    runInTransaction c lift body w = .ok (b, .error (lift e)) w₃ := by
  unfold runInTransaction
  rw [bind_of_eq_ok _ hs, bind_of_eq_ok _ (attempt_of_eq_ok hb)]
  exact (bind_of_eq_ok _ (attempt_of_eq_error hr)).trans rfl

end Runs

section Outcomes

variable {β ε α : Type} {c i d : Nat} {S : List Savepoint} {lift : Error → ε}
  {body : Db (β × Except ε α)} {w w₁ : World}

end Outcomes

namespace KeepsSavepoints

variable {α γ : Type} {c : Nat}

theorem pure (a : α) : KeepsSavepoints c (Pure.pure a : Db α) := fun _ _ _ _ _ _ hl => hl

theorem bind {p : Db α} {f : α → Db γ} (hp : KeepsSavepoints c p)
    (hf : ∀ a, KeepsSavepoints c (f a)) : KeepsSavepoints c (p >>= f) := by
  intro i d sp below V w hl
  have hl₁ := hp i d sp below V w hl
  cases hrun : p w with
  | ok a w₁ =>
    rw [hrun] at hl₁
    rw [bind_of_eq_ok _ hrun]
    exact hf a i d sp below V w₁ hl₁
  | error e w₁ =>
    rw [hrun] at hl₁
    rw [bind_of_eq_error _ hrun]
    exact hl₁

end KeepsSavepoints

/-- Where `runInTransaction` ends: where rolling back to its savepoint or releasing it leaves the
world the body left. -/
theorem runInTransaction_final {β ε α : Type} {c : Nat} (lift : Error → ε)
    {body : Db (β × Except ε α)} {w w₁ : World} {token : String}
    (hs : saveTransactionPoint c w = .ok token w₁) :
    finalWorld (runInTransaction c lift body w) =
        finalWorld (rollbackTo c token (finalWorld (body w₁))) ∨
      finalWorld (runInTransaction c lift body w) =
        finalWorld (release c token (finalWorld (body w₁))) := by
  cases hrun : body w₁ with
  | error e w₂ =>
    rw [runInTransaction_of_throw lift hs hrun]
    exact Or.inl rfl
  | ok res w₂ =>
    obtain ⟨b, e | a⟩ := res
    · rw [runInTransaction_of_failure lift hs hrun]
      exact Or.inl rfl
    · refine Or.inr ?_
      show _ = finalWorld (release c token w₂)
      cases hr : release c token w₂ with
      | ok u w₃ => rw [runInTransaction_of_release_ok lift hs hrun hr]; rfl
      | error e w₃ => rw [runInTransaction_of_release_error lift hs hrun hr]; rfl

/-- Calls of `runInTransaction` nest: around a body that keeps the savepoints it did not make, the
call keeps them too, its own savepoint being made above them and released or rolled back to. -/
theorem runInTransaction_keepsSavepoints {β ε α : Type} (c : Nat) (lift : Error → ε)
    {body : Db (β × Except ε α)} (hbody : KeepsSavepoints c body) :
    KeepsSavepoints c (runInTransaction c lift body) := by
  intro i d sp below V w hl
  obtain ⟨r, w₁, hs, -, -, -, -⟩ := saveTransactionPoint_state hl.handle hl.lt_size
  have hl₁ : SavepointLive c i d sp below V w₁ := by
    have := saveTransactionPoint_keeps_live hl
    rwa [hs] at this
  have hl₂ := hbody _ _ _ _ _ _ hl₁
  have hne : ("S" ++ toString r ++ "D" ++ toString (w.connections.getD c default).depth).isEmpty =
      false := by simp
  by_cases hD : (w.connections.getD c default).depth ≤ maxDepthCount
  · -- the call's own savepoint is live above the other: ending it comes back to this world's
    -- depth and savepoints, inside the transaction, where nothing committed changes
    obtain ⟨r', w₁', hs', hin₁⟩ :=
      saveTransactionPoint_live hl.handle hl.lt_size hl.tracks hD hl.database_lt
    rw [hs] at hs'
    obtain ⟨hr, rfl⟩ := EStateM.Result.ok.inj hs'
    have hin₂ := hbody _ _ _ _ _ _ hin₁
    have hpos : (w.connections.getD c default).depth ≠ 0 := by have := hl.above; omega
    rcases runInTransaction_final lift hs with h | h <;> rw [h, hr]
    · obtain ⟨hat, -, hinner⟩ := rollbackTo_live hin₂
      exact hl₂.of_atDepth hat hl.stack hl.above (hinner hpos).2
    · obtain ⟨w₃, hrel, hat, -, hst⟩ := release_live_inner hin₂ hpos
      rw [hrel]
      exact hl₂.of_atDepth hat hl.stack hl.above hst
  · -- a depth past 64 bits: the call's own name is refused, and nothing changes
    have hnone : ∀ m, savepointDepth? ("S" ++ toString r ++ "D" ++
        toString (w.connections.getD c default).depth) = some m →
        ((finalWorld (body w₁)).connections.getD c default).depth ≤ m := by
      intro m hm
      rw [savepointDepth?_madeName, if_neg hD] at hm
      cases hm
    rcases runInTransaction_final lift hs with h | h <;> rw [h]
    · rw [rollbackTo_of_not_lt hnone hne]
      exact hl₂
    · unfold release
      rw [savepointExecute_of_not_lt hnone]
      exact hl₂

end Db

end RecordMap
