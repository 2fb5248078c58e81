import RecordMap.Proofs.Sql.TransactionLaws
import RecordMap.Proofs.Database.Bindings

/-!
# The depth of nested transactions tracks the engine's transaction

A connection counts how deeply its transactions are nested, and the engine keeps, for the same
connection, whether a transaction is open and its stack of savepoints. The count stands for that
state (`Sql.Handle.Tracks`): a transaction is open exactly when the count is above 0; the stack
holds one savepoint per level, and one level more stands for a transaction `begin` opened; the
savepoint `j` places below the newest is named for depth `count - 1 - j`, and only the one made
at depth 0 opened the transaction.

Every call on a connection keeps the count tracking (`Db.DepthTracks`), whatever the names
given to `release` and `rollback to`, with two exceptions. Releasing the savepoint that opened the
transaction commits it, and when the transaction wrote while another connection holds a lock on
the shared file, the engine refuses that commit as busy and keeps the transaction open. The
count was already set to 0 before the statement ran, and the quiet rollback that follows a busy
refusal only rolls back while the count is above 0, so nothing is rolled back: the count says
no transaction is open while one is (`Db.Stranded`, `Db.release_tracks_or_strands`). A `commit`
refused the same way is followed by a rollback that does not look at the count, and keeps it
tracking. And a statement that controls no transaction keeps the engine's transaction
(`Sql.TransactionLaws.ordinary`) unless a write's failure is resolved by rolling back: the
engine then ends the transaction under a count above 0 (`Db.Unwound`,
`Db.execute_tracks_unless_unwound`).

The engine's part is taken from the laws it satisfies (`Sql.Engine.transactionLaws`). The calls
are gathered in a small language (`Db.Call`), statements and `runInTransaction` around a body of
calls included. Each call keeps the count tracking or leaves it out of step
(`Db.Call.run_tracks_unless_out_of_step`), and along a session of calls the count tracks the
engine until a call leaves it out of step (`Db.session_tracks_until_out_of_step`).
-/

namespace RecordMap

open RecordMap.Sql (Engine Handle Prepared Output Fault)

/-! ## What a depth stands for -/

namespace SavepointSpelling

variable {token : String} {random depth : List Char}

/-- Savepoint names are equal when they are equal up to case: case folding keeps each of their
characters apart. -/
theorem eq_of_sameName {other : String} {random' depth' : List Char}
    (h : SavepointSpelling token random depth) (h' : SavepointSpelling other random' depth')
    (hs : Sql.sameName token other = true) : token = other := by
  have hback : ∀ {t : String} {r d : List Char}, SavepointSpelling t r d →
      (t.toLower.toList).map Char.toUpper = t.toList := by
    intro t r d ht
    simp only [String.toLower, String.toList_map, List.map_map]
    conv => rhs; rw [← List.map_id t.toList]
    apply List.map_congr_left
    intro c hc
    rcases ht.chars_upper c hc with rfl | rfl | hd
    · rfl
    · rfl
    · -- a digit is neither case of a letter
      simp only [Char.isDigit, Bool.and_eq_true, decide_eq_true_eq, UInt32.le_iff_toNat_le] at hd
      change 48 ≤ c.toNat ∧ c.toNat ≤ 57 at hd
      have hlow : c.toLower = c := by
        simp only [Char.toLower]
        split
        · rename_i hup
          have : 65 ≤ c.toNat := UInt32.le_iff_toNat_le.1 hup.1
          omega
        · rfl
      simp only [Function.comp_apply, hlow, id_eq, Char.toUpper]
      split
      · rename_i hlo
        have : 97 ≤ c.toNat := UInt32.le_iff_toNat_le.1 hlo.1
        omega
      · rfl
  have hlower : token.toLower = other.toLower := by simpa [Sql.sameName] using hs
  apply String.toList_injective
  rw [← hback h, ← hback h', hlower]

end SavepointSpelling

theorem Db.savepointDepth?_madeName (r d : Nat) :
    Db.savepointDepth? ("S" ++ toString r ++ "D" ++ toString d) =
      if d ≤ Db.maxDepthCount then some d else none := by
  rw [Db.savepointDepth?_of_spelling (Db.madeName_spelling r d), Nat.ofDigitChars_ten_toDigits]

theorem Db.eq_of_savepointDepth?_madeName {r d m : Nat}
    (h : Db.savepointDepth? ("S" ++ toString r ++ "D" ++ toString d) = some m) : m = d := by
  rw [Db.savepointDepth?_madeName] at h
  split at h
  · exact (Option.some.inj h).symm
  · cases h

namespace Sql

theorem Step.findSavepoint_spec {h : Handle} {t : String} {sp : Savepoint} {k : Nat}
    (hf : Step.findSavepoint h t = some (sp, k)) :
    ∃ hk : k < h.savepoints.length, h.savepoints[k] = sp ∧ sameName sp.name t = true := by
  unfold Step.findSavepoint at hf
  have hmem := List.mem_of_find?_eq_some hf
  rw [List.mem_zipIdx_iff_getElem?] at hmem
  obtain ⟨hk, hsp⟩ := List.getElem?_eq_some_iff.1 hmem
  exact ⟨hk, hsp, by simpa using List.find?_some hf⟩

theorem Step.findSavepoint_head {h : Handle} {sp : Savepoint} {rest : List Savepoint} {t : String}
    (hs : h.savepoints = sp :: rest) (hn : sameName sp.name t = true) :
    Step.findSavepoint h t = some (sp, 0) := by
  simp [Step.findSavepoint, hs, List.zipIdx_cons, hn]

theorem Step.findSavepoint_drop {h h' : Handle} {t : String} {sp : Savepoint} {k : Nat}
    (hf : Step.findSavepoint h t = some (sp, k)) (hs : h'.savepoints = h.savepoints.drop k) :
    Step.findSavepoint h' t = some (sp, 0) := by
  obtain ⟨hk, hsp, hn⟩ := Step.findSavepoint_spec hf
  exact Step.findSavepoint_head (by rw [hs, List.drop_eq_getElem_cons hk, hsp]) hn

/-- What a library depth `d` stands for in the engine's state `h` of the same connection. -/
structure Handle.Tracks (d : Nat) (h : Handle) : Prop where
  /-- A transaction is open exactly when the depth is above 0. -/
  open_iff : h.autocommit = false ↔ 0 < d
  /-- One savepoint per level, and one level more for a transaction `begin` opened. -/
  count : h.savepoints.length ≤ d ∧ d ≤ h.savepoints.length + 1
  /-- The savepoint `j` places below the newest is named for depth `d - 1 - j`. -/
  names : ∀ j (hj : j < h.savepoints.length), ∃ r : Nat,
    h.savepoints[j].name = "S" ++ toString r ++ "D" ++ toString (d - 1 - j)
  /-- Only the savepoint made at depth 0 opened the transaction. -/
  begins : ∀ j (hj : j < h.savepoints.length), h.savepoints[j].begins = true ↔ j + 1 = d
  /-- Outside a transaction the connection keeps no copy of its database. -/
  idle : h.autocommit = true → h.work = none

namespace Handle.Tracks

variable {d : Nat} {h : Handle}

theorem autocommit_of_zero (ht : Tracks 0 h) : h.autocommit = true := by
  cases ha : h.autocommit with
  | false => exact absurd (ht.open_iff.1 ha) (Nat.lt_irrefl 0)
  | true => rfl

theorem savepoints_of_zero (ht : Tracks 0 h) : h.savepoints = [] :=
  List.eq_nil_of_length_eq_zero (Nat.le_zero.1 ht.count.1)

theorem zero (ha : h.autocommit = true) (hs : h.savepoints = []) (hw : h.work = none) :
    Tracks 0 h where
  open_iff := by simp [ha]
  count := by simp [hs]
  names := fun j hj => by simp [hs] at hj
  begins := fun j hj => by simp [hs] at hj
  idle := fun _ => hw

theorem ended (h : Handle) : Tracks 0 h.ended := zero rfl rfl rfl

theorem handleIdle (ht : Tracks d h) : h.Idle := fun ha =>
  ⟨List.eq_nil_of_length_eq_zero (by have := ht.count; have := ht.open_iff; simp_all), ht.idle ha⟩

theorem begun (ht : Tracks 0 h) : Tracks 1 { h with autocommit := false } where
  open_iff := by simp
  count := by simp [ht.savepoints_of_zero]
  names := fun j hj => by simp [ht.savepoints_of_zero] at hj
  begins := fun j hj => by simp [ht.savepoints_of_zero] at hj
  idle := fun ha => by cases ha

/-- The savepoint the library makes at depth `d` stands for one level more. -/
theorem pushed (ht : Tracks d h) (r : Nat) :
    Tracks (d + 1) (h.pushSavepoint ("S" ++ toString r ++ "D" ++ toString d)) where
  open_iff := by simp [Handle.pushSavepoint]
  count := by
    simp only [Handle.pushSavepoint, List.length_cons]
    have := ht.count
    omega
  names := by
    intro j hj
    cases j with
    | zero => exact ⟨r, by simp [Handle.pushSavepoint]⟩
    | succ j =>
      obtain ⟨r', hr'⟩ := ht.names j (by simpa [Handle.pushSavepoint] using hj)
      have hdepth : d + 1 - 1 - (j + 1) = d - 1 - j := by omega
      refine ⟨r', ?_⟩
      simp only [Handle.pushSavepoint, List.getElem_cons_succ]
      rw [hdepth]
      exact hr'
  begins := by
    intro j hj
    cases j with
    | zero =>
      -- the new savepoint opened the transaction exactly when none was open, at depth 0
      simp only [Handle.pushSavepoint, List.getElem_cons_zero, Nat.zero_add]
      rw [← Bool.not_eq_false, ht.open_iff]
      omega
    | succ j =>
      have := ht.begins j (by simpa [Handle.pushSavepoint] using hj)
      simp only [Handle.pushSavepoint, List.getElem_cons_succ]
      rw [this]
      omega
  idle := fun ha => by cases ha

theorem of_open (ht : Tracks d h) (hd : 0 < d) {h' : Handle} (ha : h'.autocommit = h.autocommit)
    (hs : h'.savepoints = h.savepoints) : Tracks d h' where
  open_iff := by rw [ha]; exact ht.open_iff
  count := by rw [hs]; exact ht.count
  names := by simp only [hs]; exact ht.names
  begins := by simp only [hs]; exact ht.begins
  idle := fun ha' => absurd (ha.symm.trans ha') (by rw [ht.open_iff.2 hd]; decide)

theorem of_kept {i : Nat} {e e' : Engine} (ht : Tracks d (e.handle i)) (k : Engine.Kept i e e') :
    Tracks d (e'.handle i) := by
  cases ha : (e.handle i).autocommit with
  | false => exact ht.of_open (ht.open_iff.1 ha) k.autocommit (k.savepoints ha)
  | true =>
    -- outside a transaction the depth is 0, and the connection still keeps nothing of one
    have hd : d = 0 := by
      have := ht.open_iff
      simp_all
    subst hd
    obtain ⟨hs, hw⟩ := k.idle ht.handleIdle (k.autocommit.trans ha)
    exact zero (k.autocommit.trans ha) hs hw

theorem succ_lt_of_begins_false (ht : Tracks d h) {j : Nat} (hj : j < h.savepoints.length)
    (hb : h.savepoints[j].begins = false) : j + 1 < d := by
  have hne : j + 1 ≠ d := fun heq => by simpa [hb] using (ht.begins j hj).2 heq
  have := ht.count
  omega

/-- Dropping the `k` newest savepoints, none of them the one that opened the transaction, stands
for depth `d - k`. -/
theorem drop (ht : Tracks d h) {k : Nat} (hk : k ≤ h.savepoints.length) (hd : k < d) :
    Tracks (d - k) { h with savepoints := h.savepoints.drop k } := by
  have hcount := ht.count
  have hopen : h.autocommit = false := ht.open_iff.2 (by omega)
  refine ⟨?_, ?_, ?_, ?_, ?_⟩
  · simp only [hopen, true_iff]
    omega
  · simp only [List.length_drop]
    omega
  · intro m hm
    simp only [List.length_drop] at hm
    obtain ⟨r, hr⟩ := ht.names (k + m) (by omega)
    have hdepth : d - 1 - (k + m) = d - k - 1 - m := by omega
    exact ⟨r, by simpa only [List.getElem_drop, hdepth] using hr⟩
  · intro m hm
    simp only [List.length_drop] at hm
    simp only [List.getElem_drop]
    rw [ht.begins (k + m) (by omega)]
    omega
  · intro ha
    rw [hopen] at ha
    cases ha

/-- A savepoint found under a name read as depth `m` sits `d - 1 - m` places below the newest:
names of different depths differ, even up to case. -/
theorem find_depth (ht : Tracks d h) {t : String} {m : Nat} (htm : Db.savepointDepth? t = some m)
    {sp : Savepoint} {k : Nat} (hf : Step.findSavepoint h t = some (sp, k)) :
    ∃ hk : k < h.savepoints.length, h.savepoints[k] = sp ∧ m = d - 1 - k := by
  obtain ⟨hk, hsp, hname⟩ := Step.findSavepoint_spec hf
  refine ⟨hk, hsp, ?_⟩
  obtain ⟨r, hr⟩ := ht.names k hk
  obtain ⟨random, digits, hspell, -⟩ := Db.spelling_of_savepointDepth? htm
  have hmade := Db.madeName_spelling r (d - 1 - k)
  rw [← hr, hsp] at hmade
  have htoken : t = "S" ++ toString r ++ "D" ++ toString (d - 1 - k) := by
    rw [← hmade.eq_of_sameName hspell hname, ← hsp, hr]
  rw [htoken] at htm
  exact Db.eq_of_savepointDepth?_madeName htm

end Handle.Tracks

end Sql

/-! ## The depth of one connection -/

/-- The world with the depth of connection `c` set to `d`, as `Db.setDepth` leaves it. -/
def World.withDepth (w : World) (c d : Nat) : World :=
  { w with connections := w.connections.modify c fun k => { k with depth := d } }

namespace World

variable {w : World} {c d d' : Nat}

@[simp] theorem engine_withDepth : (w.withDepth c d).engine = w.engine := rfl

@[simp] theorem size_withDepth : (w.withDepth c d).connections.size = w.connections.size := by
  simp [withDepth]

@[simp] theorem handle_withDepth :
    ((w.withDepth c d).connections.getD c default).handle = (w.connections.getD c default).handle := by
  by_cases hc : c < w.connections.size
  · simp [withDepth, Array.getD, hc, Array.getElem_modify]
  · simp [withDepth, Array.getD, hc]

theorem depth_withDepth (hc : c < w.connections.size) :
    ((w.withDepth c d).connections.getD c default).depth = d := by
  simp [withDepth, Array.getD, hc, Array.getElem_modify]

theorem withDepth_engine {e : Sql.Engine} :
    ({ w with engine := e } : World).withDepth c d = { w.withDepth c d with engine := e } := rfl

@[simp] theorem withDepth_withDepth : (w.withDepth c d).withDepth c d' = w.withDepth c d' := by
  simp only [withDepth]
  congr 1
  apply Array.ext (by simp)
  intro j _ _
  simp only [Array.getElem_modify]
  split <;> rfl

@[simp] theorem withDepth_self : w.withDepth c (w.connections.getD c default).depth = w := by
  simp only [withDepth]
  congr 1
  apply Array.ext (by simp)
  intro j _ hj
  simp only [Array.getElem_modify]
  split
  · rename_i hcj
    subst hcj
    simp [Array.getD, hj]
  · rfl

theorem lt_size_of_handle {i : Nat} (hh : (w.connections.getD c default).handle = some i) :
    c < w.connections.size := by
  by_contra hc
  simp [Array.getD, hc] at hh
  cases hh

end World

namespace Db

/-! ## Statements with no values -/

theorem engineHandle?_of_handle {c i : Nat} {w : World}
    (hh : (w.connections.getD c default).handle = some i) (e' : Engine) :
    engineHandle? c { w with engine := e' } = .ok (some (e'.handle i)) { w with engine := e' } := by
  unfold engineHandle?
  rw [bind_of_eq_ok _ (connection_apply c _)]
  simp only [hh]
  rfl

theorem ofOutcome_map_eq_ok {α γ : Type} {o : Outcome α} {g : α → γ} {w w' : World} {b : γ}
    (h : ofOutcome (o.map g) w = .ok b w') : ∃ a, b = g a := by
  cases o with
  | ok a =>
    cases h
    exact ⟨a, rfl⟩
  | error e => cases h

section Execute

variable {c i : Nat} {w : World} (hh : (w.connections.getD c default).handle = some i)
include hh

theorem stream_of_run_ok {b : Bound} {out : Output} {e' : Engine}
    (hr : Engine.run i b.prepared b.params w.engine = .ok out e') :
    stream c b w = .ok out { w with engine := e' } := by
  unfold stream
  rw [bind_of_eq_ok _ (handle_of_eq_some hh), bind_of_eq_ok _ (engine_of_eq_ok hr)]
  rfl

theorem stream_of_run_error {b : Bound} {f : Fault} {e' : Engine}
    (hr : Engine.run i b.prepared b.params w.engine = .error f e') :
    stream c b w = .error (runError f) { w with engine := e' } := by
  have hengine : engine (Engine.run i b.prepared b.params) w = .ok (.error f) { w with engine := e' } := by
    unfold engine
    rw [show ∀ {γ : Type} (g : World → Db γ), (MonadState.get >>= g) w = g w w from fun _ => rfl]
    rw [show EStateM.run (Engine.run i b.prepared b.params) w.engine = .error f e' from hr]
    rfl
  unfold stream
  rw [bind_of_eq_ok _ (handle_of_eq_some hh), bind_of_eq_ok _ hengine]
  rfl

/-- A prepared command is the engine's statement for the command's text, and preparing it changes
nothing. -/
theorem prepare_prepared {cmd : Command} {b : Bound} {w' : World} (hb : prepare c cmd w = .ok b w') :
    w' = w ∧ w.engine.prepare i cmd.text = .ok b.prepared := by
  have hw : w' = w := by
    have := @Keeps.prepare c cmd _ id w
    rwa [hb] at this
  subst hw
  refine ⟨rfl, ?_⟩
  cases hp : w'.engine.prepare i cmd.text with
  | error f =>
    unfold prepare at hb
    rw [bind_of_eq_ok _ (handle_of_eq_some hh), bind_of_eq_ok _ (connection_apply c w'),
      bind_of_eq_ok _ (show (MonadState.get : Db World) w' = .ok w' w' from rfl)] at hb
    dsimp only at hb
    rw [hp] at hb
    cases hb
  | ok p =>
    rw [prepare_eq (handle_of_eq_some hh) hp] at hb
    obtain ⟨st, rfl⟩ := ofOutcome_map_eq_ok hb
    rfl

variable {cmd : Command} {b : Bound} (hb : prepare c cmd w = .ok b w)
include hb

theorem executeNonQuery_of_run_error {f : Fault} {e' : Engine}
    (hr : Engine.run i b.prepared b.params w.engine = .error f e') :
    executeNonQuery c cmd w = .error (runError f) { w with engine := e' } := by
  have hsteps : steps c b w = .ok ([], some (runError f)) { w with engine := e' } := by
    unfold steps
    rw [bind_of_eq_ok _ (attempt_of_eq_error (stream_of_run_error hh hr))]
    rfl
  unfold executeNonQuery
  rw [bind_of_eq_ok _ hb, bind_of_eq_ok _ hsteps]
  rfl

/-- A statement the engine runs leaves the connections as they were and the engine as the run
leaves it; one that fails no step succeeds with the connection's change count. -/
theorem executeNonQuery_of_run_ok {out : Output} {e' : Engine}
    (hr : Engine.run i b.prepared b.params w.engine = .ok out e') :
    finalWorld (executeNonQuery c cmd w) = { w with engine := e' } ∧
      (out.failure = none → executeNonQuery c cmd w = .ok (e'.handle i).changes { w with engine := e' }) := by
  have hsteps : steps c b w = .ok (out.rows, out.failure.map runError) { w with engine := e' } := by
    unfold steps
    rw [bind_of_eq_ok _ (attempt_of_eq_ok (stream_of_run_ok hh hr))]
    rfl
  have hchanges : changes c { w with engine := e' } = .ok (e'.handle i).changes { w with engine := e' } := by
    unfold changes
    rw [bind_of_eq_ok _ (engineHandle?_of_handle hh e')]
    rfl
  unfold executeNonQuery
  rw [bind_of_eq_ok _ hb, bind_of_eq_ok _ hsteps]
  obtain ⟨names, rows, failure⟩ := out
  -- only a failure before any row fails the statement
  rcases rows with _ | ⟨row, rows⟩ <;> rcases failure with _ | f
  · exact ⟨congrArg finalWorld hchanges, fun _ => hchanges⟩
  · exact ⟨rfl, fun h => by cases h⟩
  · exact ⟨congrArg finalWorld hchanges, fun _ => hchanges⟩
  · exact ⟨congrArg finalWorld hchanges, fun h => by cases h⟩

end Execute

theorem execute_nil (c : Nat) (text : String) : execute c text [] = executeNonQuery c (Command.mk text []) :=
  rfl

section Unbound

variable {c i : Nat} {w : World} {text : String} {p : Prepared}
  (hh : (w.connections.getD c default).handle = some i) (hp : w.engine.prepare i text = .ok p)
  (hparams : p.params = [])
include hh hp hparams

theorem prepare_unbound :
    prepare c (Command.mk text []) w = .ok (Bound.mk p #[] (Command.mk text [])) w := by
  rw [@prepare_eq c (Command.mk text []) w i p (handle_of_eq_some hh) hp]
  simp only [List.foldlM_nil, hparams, List.length_nil]
  rfl

theorem execute_of_run_ok {out : Output} {e' : Engine} (hr : Engine.run i p #[] w.engine = .ok out e')
    (hf : out.failure = none) :
    execute c text [] w = .ok (e'.handle i).changes { w with engine := e' } := by
  rw [execute_nil]
  exact (executeNonQuery_of_run_ok hh (prepare_unbound hh hp hparams) hr).2 hf

theorem execute_of_run_error {f : Fault} {e' : Engine} (hr : Engine.run i p #[] w.engine = .error f e') :
    execute c text [] w = .error (runError f) { w with engine := e' } := by
  rw [execute_nil]
  exact executeNonQuery_of_run_error hh (prepare_unbound hh hp hparams) hr

end Unbound

/-! ## The library's transaction statements -/

theorem prepare_control {e : Engine} {i : Nat} {text : String} {s : Sql.Statement} {plan : Sql.Plan}
    (hp : Sql.parse text = .ok ⟨some s, [], text.length⟩)
    (hc : ∀ st en, Sql.compileStatement st en (some s) = .ok (plan, [])) :
    e.prepare i text = .ok ⟨text, [], some s, plan, [], (e.view i).schemaVersion⟩ :=
  Engine.prepare_of_parse hp (hc _ _)

theorem isTransient_error (msg : String) : (runError (Fault.error msg)).isTransient = false := rfl

theorem isTransient_foreignKey : (runError Fault.foreignKey).isTransient = false := rfl

theorem isTransient_busy : (runError Fault.busy).isTransient = true := rfl

section Control

variable {c i : Nat} {w : World} (hh : (w.connections.getD c default).handle = some i)
include hh

theorem execute_begin (ha : (w.engine.handle i).autocommit = true) :
    ∃ n, execute c "begin transaction" [] w =
      .ok n { w with engine := w.engine.updateHandle i fun h => { h with autocommit := false } } :=
  ⟨_, execute_of_run_ok hh (prepare_control (Sql.parse_begin rfl) fun _ _ => rfl) rfl
    (Engine.transactionLaws.begin #[] rfl rfl ha) rfl⟩

theorem execute_savepoint {name : String} {random digits : List Char}
    (hs : SavepointSpelling name random digits) :
    ∃ n, execute c ("savepoint " ++ name) [] w =
      .ok n { w with engine := w.engine.updateHandle i (Handle.pushSavepoint name) } :=
  ⟨_, execute_of_run_ok hh (prepare_control (Sql.parse_savepoint hs (by simp)) fun _ _ => rfl) rfl
    (Engine.transactionLaws.savepoint #[] rfl rfl) rfl⟩

theorem execute_rollback (ha : (w.engine.handle i).autocommit = false) :
    ∃ n, execute c "rollback" [] w = .ok n { w with engine := w.engine.updateHandle i Handle.ended } :=
  ⟨_, execute_of_run_ok hh (prepare_control (Sql.parse_rollback rfl) fun _ _ => rfl) rfl
    (Engine.transactionLaws.rollback #[] rfl rfl ha) rfl⟩

/-- What a statement that commits does: it is refused while deferred foreign keys are violated,
leaving everything as it was; refused as busy when the transaction wrote and another connection
holds a lock on the file, leaving the transaction open; and otherwise ends the transaction. -/
theorem execute_committing {text : String} {p : Prepared}
    (hp : w.engine.prepare i text = .ok p) (hparams : p.params = [])
    (hr : Engine.Commits i w.engine p.columns (Engine.run i p #[] w.engine)) :
    (0 < (w.engine.handle i).deferredViolations ∧
        execute c text [] w = .error (runError Fault.foreignKey) w) ∨
      ((w.engine.handle i).work.isSome = true ∧ w.engine.lockedOut i = true ∧
        execute c text [] w = .error (runError Fault.busy)
          { w with engine := w.engine.updateHandle i fun h => { h with lock := .pending } }) ∨
      ∃ n e', execute c text [] w = .ok n { w with engine := e' } ∧
        e'.handle i = (w.engine.handle i).ended ∧ Engine.Frame i w.engine e' ∧
        e'.stores.size = w.engine.stores.size ∧
        ((w.engine.handle i).database < w.engine.stores.size → e'.view i = w.engine.view i) := by
  unfold Engine.Commits at hr
  by_cases hd : 0 < (w.engine.handle i).deferredViolations
  · rw [if_pos hd] at hr
    exact Or.inl ⟨hd, execute_of_run_error hh hp hparams hr⟩
  rw [if_neg hd] at hr
  right
  by_cases hg : ((w.engine.handle i).work.isSome && w.engine.lockedOut i) = true
  · rw [if_pos hg] at hr
    rw [Bool.and_eq_true] at hg
    exact Or.inl ⟨hg.1, hg.2, execute_of_run_error hh hp hparams hr⟩
  · rw [if_neg hg] at hr
    obtain ⟨e', hrun, he', hf, hs, hv⟩ := hr
    exact Or.inr ⟨_, e', execute_of_run_ok hh hp hparams hrun rfl, he', hf, hs, hv⟩

theorem execute_commit (hi : i < w.engine.handles.size) (ha : (w.engine.handle i).autocommit = false) :
    (0 < (w.engine.handle i).deferredViolations ∧
        execute c "commit" [] w = .error (runError Fault.foreignKey) w) ∨
      ((w.engine.handle i).work.isSome = true ∧ w.engine.lockedOut i = true ∧
        execute c "commit" [] w = .error (runError Fault.busy)
          { w with engine := w.engine.updateHandle i fun h => { h with lock := .pending } }) ∨
      ∃ n e', execute c "commit" [] w = .ok n { w with engine := e' } ∧
        e'.handle i = (w.engine.handle i).ended ∧ Engine.Frame i w.engine e' ∧
        e'.stores.size = w.engine.stores.size ∧
        ((w.engine.handle i).database < w.engine.stores.size → e'.view i = w.engine.view i) :=
  execute_committing hh (prepare_control (Sql.parse_commit rfl) fun _ _ => rfl) rfl
    (Engine.transactionLaws.commit #[] hi rfl rfl ha)

variable {text name : String} {random digits : List Char} (hs : SavepointSpelling name random digits)
include hs

/-- `release` and `rollback to` a name no savepoint has fail with the engine's error 1 and
change nothing. -/
theorem execute_unknown_savepoint
    (htext : text.toList = "release".toList ++ ' ' :: name.toList ∨
      text.toList = "rollback".toList ++ ' ' :: "to".toList ++ ' ' :: name.toList)
    (hf : Sql.Step.findSavepoint (w.engine.handle i) name = none) :
    ∃ msg, execute c text [] w = .error (runError (Fault.error msg)) w := by
  rcases htext with htext | htext
  · obtain ⟨msg, hr⟩ := Engine.transactionLaws.unknownSavepoint (p := ⟨text, [], some (.release name),
      .release name, [], (w.engine.view i).schemaVersion⟩) #[] rfl (Or.inl rfl) hf
    exact ⟨msg, execute_of_run_error hh
      (prepare_control (Sql.parse_release hs htext) fun _ _ => rfl) rfl hr⟩
  · obtain ⟨msg, hr⟩ := Engine.transactionLaws.unknownSavepoint (p := ⟨text, [], some (.rollback (some name)),
      .rollbackTo name, [], (w.engine.view i).schemaVersion⟩) #[] rfl (Or.inr rfl) hf
    exact ⟨msg, execute_of_run_error hh
      (prepare_control (Sql.parse_rollbackTo hs htext) fun _ _ => rfl) rfl hr⟩

theorem execute_release_inner (htext : text.toList = "release".toList ++ ' ' :: name.toList)
    {sp : Sql.Savepoint} {k : Nat} (hf : Sql.Step.findSavepoint (w.engine.handle i) name = some (sp, k))
    (hb : sp.begins = false) :
    ∃ n, execute c text [] w = .ok n { w with engine := w.engine.updateHandle i fun h =>
      { h with savepoints := h.savepoints.drop (k + 1) } } :=
  ⟨_, execute_of_run_ok hh (prepare_control (Sql.parse_release hs htext) fun _ _ => rfl) rfl
    (Engine.transactionLaws.releaseInner #[] rfl rfl hf hb) rfl⟩

theorem execute_release_outer (hi : i < w.engine.handles.size)
    (htext : text.toList = "release".toList ++ ' ' :: name.toList)
    {sp : Sql.Savepoint} {k : Nat} (hf : Sql.Step.findSavepoint (w.engine.handle i) name = some (sp, k))
    (hb : sp.begins = true) :
    (0 < (w.engine.handle i).deferredViolations ∧
        execute c text [] w = .error (runError Fault.foreignKey) w) ∨
      ((w.engine.handle i).work.isSome = true ∧ w.engine.lockedOut i = true ∧
        execute c text [] w = .error (runError Fault.busy)
          { w with engine := w.engine.updateHandle i fun h => { h with lock := .pending } }) ∨
      ∃ n e', execute c text [] w = .ok n { w with engine := e' } ∧
        e'.handle i = (w.engine.handle i).ended ∧ Engine.Frame i w.engine e' ∧
        e'.stores.size = w.engine.stores.size ∧
        ((w.engine.handle i).database < w.engine.stores.size → e'.view i = w.engine.view i) :=
  execute_committing hh (prepare_control (Sql.parse_release hs htext) fun _ _ => rfl) rfl
    (Engine.transactionLaws.releaseOuter #[] hi rfl rfl hf hb)

theorem execute_rollbackTo
    (htext : text.toList = "rollback".toList ++ ' ' :: "to".toList ++ ' ' :: name.toList)
    {sp : Sql.Savepoint} {k : Nat} (hf : Sql.Step.findSavepoint (w.engine.handle i) name = some (sp, k)) :
    ∃ n, execute c text [] w = .ok n { w with engine := w.engine.updateHandle i fun h =>
      { h with work := sp.snapshot.or ((w.engine.handle i).work.map fun _ =>
                 w.engine.stores.getD (w.engine.handle i).database Sql.Store.empty),
               savepoints := h.savepoints.drop k, deferredViolations := sp.deferred } } :=
  ⟨_, execute_of_run_ok hh (prepare_control (Sql.parse_rollbackTo hs htext) fun _ _ => rfl) rfl
    (Engine.transactionLaws.rollbackTo (p := ⟨text, [], some (.rollback (some name)), .rollbackTo name, [],
      (w.engine.view i).schemaVersion⟩) #[] rfl rfl hf) rfl⟩

end Control

/-! ## The library's calls, step by step -/

theorem depth_apply (c : Nat) (w : World) :
    depth c w = .ok (w.connections.getD c default).depth w := rfl

theorem setDepth_apply (c d : Nat) (w : World) : setDepth c d w = .ok () (w.withDepth c d) := rfl

theorem quietly_of_eq_ok {p : Db Unit} {w w' : World} (h : p w = .ok () w') :
    quietly p w = .ok () w' := by
  unfold quietly
  show EStateM.tryCatch p _ w = _
  delta EStateM.tryCatch
  rw [h]

theorem quietly_of_eq_error {p : Db Unit} {w w' : World} {e : Error} (h : p w = .error e w') :
    quietly p w = .ok () w' := by
  unfold quietly
  show EStateM.tryCatch p _ w = _
  delta EStateM.tryCatch
  rw [h]
  rfl

section Calls

variable {c i : Nat} {w : World}

theorem beginTransaction_of_depth_ne_zero (hd : (w.connections.getD c default).depth ≠ 0) :
    beginTransaction c w =
      .error (.transactionState "cannot begin a transaction while already in a transaction") w := by
  unfold beginTransaction
  rw [bind_of_eq_ok _ (depth_apply c w)]
  dsimp only
  rw [if_pos (bne_iff_ne.2 hd)]
  rfl

theorem rollback_of_depth_zero (hd : (w.connections.getD c default).depth = 0) :
    rollback c w = .ok () (w.withDepth c 0) := by
  unfold rollback
  rw [bind_of_eq_ok _ (depth_apply c w), bind_of_eq_ok _ (setDepth_apply c 0 w), if_neg (by omega)]
  rfl

theorem rollbackQuietly_of_depth_zero (hd : (w.connections.getD c default).depth = 0) :
    rollbackQuietly c w = .ok () (w.withDepth c 0) := by
  unfold rollbackQuietly
  rw [bind_of_eq_ok _ (depth_apply c w), bind_of_eq_ok _ (setDepth_apply c 0 w), if_neg (by omega)]
  rfl

theorem commit_of_depth_zero (hd : (w.connections.getD c default).depth = 0) :
    commit c w = .ok () (w.withDepth c 0) := by
  unfold commit
  rw [bind_of_eq_ok _ (depth_apply c w), bind_of_eq_ok _ (setDepth_apply c 0 w),
    if_neg (by rw [hd]; decide)]
  rfl

section Savepoint

variable {t v : String} {m : Nat}

theorem savepointExecute_of_not_lt
    (h : ∀ m, savepointDepth? t = some m → (w.connections.getD c default).depth ≤ m) :
    savepointExecute c t v w = .error (invalidSavepoint t) w := by
  unfold savepointExecute
  rw [bind_of_eq_ok _ (depth_apply c w)]
  cases hm : savepointDepth? t with
  | none => rfl
  | some m =>
    simp only [if_neg (Nat.not_lt.2 (h m hm))]
    rfl

variable (hm : savepointDepth? t = some m) (hlt : m < (w.connections.getD c default).depth)
include hm hlt

theorem savepointExecute_of_ok {n : Nat} {w' : World}
    (hex : execute c (v ++ " " ++ t) [] (w.withDepth c m) = .ok n w') :
    savepointExecute c t v w = .ok () w' := by
  unfold savepointExecute
  rw [bind_of_eq_ok _ (depth_apply c w)]
  simp only [hm, if_pos hlt]
  rw [pure_bind, bind_of_eq_ok _ (setDepth_apply c m w), bind_of_eq_ok _ (attempt_of_eq_ok hex)]
  rfl

/-- A statement the engine refuses: after a failure that could pass the connection is rolled
back quietly, after any other the depth is put back, and the call fails with the engine's error. -/
theorem savepointExecute_of_error {e : Error} {w' : World}
    (hex : execute c (v ++ " " ++ t) [] (w.withDepth c m) = .error e w')
    (hd : (w'.connections.getD c default).depth = m) :
    savepointExecute c t v w = if e.isTransient then (rollbackQuietly c >>= fun _ => throw e) w'
      else .error e (w'.withDepth c (w.connections.getD c default).depth) := by
  unfold savepointExecute
  rw [bind_of_eq_ok _ (depth_apply c w)]
  simp only [hm, if_pos hlt]
  rw [pure_bind, bind_of_eq_ok _ (setDepth_apply c m w), bind_of_eq_ok _ (attempt_of_eq_error hex)]
  dsimp only
  split
  · rfl
  · rw [bind_of_eq_ok _ (depth_apply c w'), hd, beq_self_eq_true, if_pos rfl,
      bind_of_eq_ok _ (setDepth_apply c _ w')]
    rfl

end Savepoint

variable (hh : (w.connections.getD c default).handle = some i)
include hh

theorem rollbackIgnoringErrors_of_open (ha : (w.engine.handle i).autocommit = false) :
    rollbackIgnoringErrors c w = .ok () { w with engine := w.engine.updateHandle i Handle.ended } := by
  obtain ⟨n, hex⟩ := execute_rollback hh ha
  exact quietly_of_eq_ok (bind_of_eq_ok _ hex)

theorem forceRollbackQuietly_of_open (ha : (w.engine.handle i).autocommit = false) :
    forceRollbackQuietly c w =
      .ok () { w.withDepth c 0 with engine := w.engine.updateHandle i Handle.ended } := by
  unfold forceRollbackQuietly
  rw [bind_of_eq_ok _ (setDepth_apply c 0 w)]
  exact rollbackIgnoringErrors_of_open (World.handle_withDepth.trans hh) ha

theorem rollback_of_open (hd : 0 < (w.connections.getD c default).depth)
    (ha : (w.engine.handle i).autocommit = false) :
    rollback c w = .ok () { w.withDepth c 0 with engine := w.engine.updateHandle i Handle.ended } := by
  obtain ⟨n, hex⟩ := execute_rollback (w := w.withDepth c 0) (World.handle_withDepth.trans hh) ha
  unfold rollback
  rw [bind_of_eq_ok _ (depth_apply c w), bind_of_eq_ok _ (setDepth_apply c 0 w), if_pos hd, bind_of_eq_ok _ hex]
  rfl

/-- A commit inside a transaction ends it, whether the engine commits or refuses: a refused commit
is rolled back. -/
theorem commit_of_open (hi : i < w.engine.handles.size) (hd : 0 < (w.connections.getD c default).depth)
    (ha : (w.engine.handle i).autocommit = false) :
    ∃ e' : Engine, e'.handle i = (w.engine.handle i).ended ∧ e'.handles.size = w.engine.handles.size ∧
      (commit c w = .ok () { w.withDepth c 0 with engine := e' } ∨
        ∃ f, (f = Fault.foreignKey ∨ f = Fault.busy) ∧
          commit c w = .error (runError f) { w.withDepth c 0 with engine := e' }) := by
  have hh0 : ((w.withDepth c 0).connections.getD c default).handle = some i :=
    World.handle_withDepth.trans hh
  unfold commit
  rw [bind_of_eq_ok _ (depth_apply c w), bind_of_eq_ok _ (setDepth_apply c 0 w),
    if_pos (bne_iff_ne.2 (by omega))]
  rcases execute_commit hh0 hi ha with ⟨-, hex⟩ | ⟨-, -, hex⟩ | ⟨n, e', hex, he', hf, -, -⟩
  · -- refused while deferred foreign keys are violated, and rolled back
    refine ⟨w.engine.updateHandle i Handle.ended, Engine.handle_updateHandle_self hi,
      Engine.size_updateHandle, Or.inr ⟨Fault.foreignKey, Or.inl rfl, ?_⟩⟩
    rw [bind_of_eq_ok _ (attempt_of_eq_error hex)]
    dsimp only
    rw [bind_of_eq_ok _ (forceRollbackQuietly_of_open hh0 ha), World.withDepth_withDepth]
    rfl
  · -- refused as busy, keeping the pending lock, and rolled back
    have ha' : ((w.engine.updateHandle i fun h => { h with lock := .pending }).handle i).autocommit =
        false := by rw [Engine.handle_updateHandle_self hi]; exact ha
    refine ⟨(w.engine.updateHandle i fun h => { h with lock := .pending }).updateHandle i Handle.ended,
      ?_, by simp, Or.inr ⟨Fault.busy, Or.inr rfl, ?_⟩⟩
    · rw [Engine.handle_updateHandle_self (by simpa using hi), Engine.handle_updateHandle_self hi]
      rfl
    rw [bind_of_eq_ok _ (attempt_of_eq_error hex)]
    dsimp only
    refine (bind_of_eq_ok _ (forceRollbackQuietly_of_open (w := { w.withDepth c 0 with
      engine := w.engine.updateHandle i fun h => { h with lock := .pending } }) hh0 ha')).trans ?_
    dsimp only
    rw [World.withDepth_engine, World.withDepth_withDepth]
    rfl
  · refine ⟨e', he', hf.size, Or.inl ?_⟩
    rw [bind_of_eq_ok _ (attempt_of_eq_ok hex)]
    rfl

section Release

variable {t : String}

omit hh in
theorem releaseText : ("release" ++ " " ++ t).toList = "release".toList ++ ' ' :: t.toList := by
  simp

omit hh in
theorem rollbackToText :
    ("rollback to" ++ " " ++ t).toList = "rollback".toList ++ ' ' :: "to".toList ++ ' ' :: t.toList := by
  simp

variable {m : Nat} (hm : savepointDepth? t = some m)
  (hlt : m < (w.connections.getD c default).depth)
include hm hlt

theorem savepointExecute_unknown {v : String}
    (hv : (v ++ " " ++ t).toList = "release".toList ++ ' ' :: t.toList ∨
      (v ++ " " ++ t).toList = "rollback".toList ++ ' ' :: "to".toList ++ ' ' :: t.toList)
    (hf : Sql.Step.findSavepoint (w.engine.handle i) t = none) :
    ∃ msg, savepointExecute c t v w = .error (runError (Fault.error msg)) w := by
  obtain ⟨random, digits, hs, -⟩ := spelling_of_savepointDepth? hm
  obtain ⟨msg, hex⟩ := execute_unknown_savepoint (w := w.withDepth c m)
    (World.handle_withDepth.trans hh) hs hv hf
  refine ⟨msg, ?_⟩
  rw [savepointExecute_of_error hm hlt hex (World.depth_withDepth (World.lt_size_of_handle hh)),
    if_neg (by rw [isTransient_error]; decide), World.withDepth_withDepth, World.withDepth_self]

theorem release_inner {sp : Sql.Savepoint} {k : Nat}
    (hf : Sql.Step.findSavepoint (w.engine.handle i) t = some (sp, k)) (hb : sp.begins = false) :
    release c t w = .ok () { w.withDepth c m with engine := w.engine.updateHandle i fun h =>
      { h with savepoints := h.savepoints.drop (k + 1) } } := by
  obtain ⟨random, digits, hs, -⟩ := spelling_of_savepointDepth? hm
  obtain ⟨n, hex⟩ := execute_release_inner (w := w.withDepth c m)
    (World.handle_withDepth.trans hh) hs releaseText hf hb
  exact savepointExecute_of_ok hm hlt hex

/-- Releasing the savepoint made at depth 0 that opened the transaction commits it. Refused while
deferred foreign keys are violated, it changes nothing; refused as busy, it leaves the depth at 0
and the transaction open; otherwise it ends the transaction. -/
theorem release_outer (hi : i < w.engine.handles.size) {sp : Sql.Savepoint} {k : Nat}
    (hf : Sql.Step.findSavepoint (w.engine.handle i) t = some (sp, k)) (hb : sp.begins = true)
    (hm0 : m = 0) :
    (0 < (w.engine.handle i).deferredViolations ∧
        release c t w = .error (runError Fault.foreignKey) w) ∨
      ((w.engine.handle i).work.isSome = true ∧ w.engine.lockedOut i = true ∧
        release c t w = .error (runError Fault.busy)
          { w.withDepth c 0 with engine := w.engine.updateHandle i fun h => { h with lock := .pending } }) ∨
      ∃ e', release c t w = .ok () { w.withDepth c 0 with engine := e' } ∧
        e'.handle i = (w.engine.handle i).ended ∧ Engine.Frame i w.engine e' ∧
        e'.stores.size = w.engine.stores.size ∧
        ((w.engine.handle i).database < w.engine.stores.size → e'.view i = w.engine.view i) := by
  subst hm0
  obtain ⟨random, digits, hs, -⟩ := spelling_of_savepointDepth? hm
  have hd0 := World.depth_withDepth (d := 0) (World.lt_size_of_handle hh)
  unfold release
  rcases execute_release_outer (w := w.withDepth c 0) (World.handle_withDepth.trans hh) hs hi
      releaseText hf hb with ⟨hd, hex⟩ | ⟨hw, hl, hex⟩ | ⟨n, e', hex, he', hfr, hs, hv⟩
  · -- the depth is put back
    refine Or.inl ⟨hd, ?_⟩
    rw [savepointExecute_of_error hm hlt hex hd0, if_neg (by rw [isTransient_foreignKey]; decide),
      World.withDepth_withDepth, World.withDepth_self]
  · -- the quiet rollback sees depth 0 and rolls nothing back
    refine Or.inr (Or.inl ⟨hw, hl, ?_⟩)
    rw [savepointExecute_of_error hm hlt hex hd0, if_pos isTransient_busy]
    refine (bind_of_eq_ok _ (rollbackQuietly_of_depth_zero (w := { w.withDepth c 0 with
      engine := w.engine.updateHandle i fun h => { h with lock := .pending } }) hd0)).trans ?_
    dsimp only
    rw [World.withDepth_engine, World.withDepth_withDepth]
    rfl
  · exact Or.inr (Or.inr ⟨e', savepointExecute_of_ok hm hlt hex, he', hfr, hs, hv⟩)

end Release

theorem beginTransaction_of_depth_zero (hd : (w.connections.getD c default).depth = 0)
    (ha : (w.engine.handle i).autocommit = true) :
    beginTransaction c w = .ok ()
      { w.withDepth c 1 with engine := w.engine.updateHandle i fun h => { h with autocommit := false } } := by
  obtain ⟨n, hex⟩ := execute_begin (w := w.withDepth c 1) (World.handle_withDepth.trans hh) ha
  unfold beginTransaction
  rw [bind_of_eq_ok _ (depth_apply c w)]
  dsimp only
  rw [if_neg (by rw [hd]; decide), bind_of_eq_ok _ (setDepth_apply c 1 w),
    bind_of_eq_ok _ (attempt_of_eq_ok hex)]
  rfl

/-- A savepoint is made with the current depth in its name, raising the depth by one. -/
theorem saveTransactionPoint_eq :
    ∃ (r : Nat) (w' : World), saveTransactionPoint c w =
        .ok ("S" ++ toString r ++ "D" ++ toString (w.connections.getD c default).depth) w' ∧
      w'.connections = (w.withDepth c ((w.connections.getD c default).depth + 1)).connections ∧
      w'.engine = w.engine.updateHandle i
        (Handle.pushSavepoint ("S" ++ toString r ++ "D" ++ toString (w.connections.getD c default).depth)) := by
  unfold saveTransactionPoint
  rw [bind_of_eq_ok _ (depth_apply c w)]
  dsimp only
  rw [bind_of_eq_ok _ (setDepth_apply c _ w)]
  obtain ⟨r, hr⟩ : ∃ r, random (w.withDepth c ((w.connections.getD c default).depth + 1)) =
      .ok r { w.withDepth c ((w.connections.getD c default).depth + 1) with entropy := r } := ⟨_, rfl⟩
  rw [bind_of_eq_ok _ hr]
  dsimp only
  obtain ⟨n, hex⟩ := execute_savepoint
    (w := { w.withDepth c ((w.connections.getD c default).depth + 1) with entropy := r })
    (World.handle_withDepth.trans hh) (madeName_spelling (r % 32767) (w.connections.getD c default).depth)
  exact ⟨r % 32767, _, (bind_of_eq_ok _ (attempt_of_eq_ok hex)).trans rfl, rfl, rfl⟩

end Calls

/-! ## Depth tracking -/

/-- The depth of connection `c` stands for the state the engine keeps for it. -/
def DepthTracks (c : Nat) (w : World) : Prop :=
  ∃ i, (w.connections.getD c default).handle = some i ∧ i < w.engine.handles.size ∧
    (w.engine.handle i).Tracks (w.connections.getD c default).depth

/-- Connection `c` is at depth 0 while the engine keeps its transaction open. -/
def Stranded (c : Nat) (w : World) : Prop :=
  ∃ i, (w.connections.getD c default).handle = some i ∧
    (w.connections.getD c default).depth = 0 ∧ (w.engine.handle i).autocommit = false

/-- Connection `c` is above depth 0 while the engine keeps no transaction open for it: the
engine rolled the transaction back under the depth. -/
def Unwound (c : Nat) (w : World) : Prop :=
  ∃ i, (w.connections.getD c default).handle = some i ∧ 0 < (w.connections.getD c default).depth ∧
    (w.engine.handle i).autocommit = true ∧ (w.engine.handle i).savepoints = []

/-- A call failed with `e` leaving the depth of connection `c` out of step with the engine:
stranded by a commit refused as busy, or unwound by the engine's rollback. -/
def OutOfStep (c : Nat) (e : Error) (w : World) : Prop :=
  (e = runError Fault.busy ∧ Stranded c w) ∨ Unwound c w

/-- A program keeps the depth of connection `c` tracking the engine, whether it ends well or not. -/
def KeepsTracking {α : Type} (c : Nat) (p : Db α) : Prop :=
  ∀ w, DepthTracks c w → DepthTracks c (finalWorld (p w))

section Tracking

variable {c i : Nat} {w : World}

theorem depthTracks_withDepth {d : Nat} {e : Engine}
    (hh : (w.connections.getD c default).handle = some i) (hi : i < e.handles.size)
    (ht : (e.handle i).Tracks d) : DepthTracks c { w.withDepth c d with engine := e } := by
  refine ⟨i, World.handle_withDepth.trans hh, hi, ?_⟩
  show (e.handle i).Tracks ((w.withDepth c d).connections.getD c default).depth
  rw [World.depth_withDepth (World.lt_size_of_handle hh)]
  exact ht

theorem beginTransaction_keeps (c : Nat) : KeepsTracking c (beginTransaction c) := by
  rintro w ⟨i, hh, hi, ht⟩
  by_cases hd : (w.connections.getD c default).depth = 0
  · rw [hd] at ht
    rw [beginTransaction_of_depth_zero hh hd ht.autocommit_of_zero]
    refine depthTracks_withDepth hh (by simpa using hi) ?_
    rw [Engine.handle_updateHandle_self hi]
    exact ht.begun
  · rw [beginTransaction_of_depth_ne_zero hd]
    exact ⟨i, hh, hi, ht⟩

/-- A savepoint is made one level up, newest in the engine, named for the depth it was made at. -/
theorem saveTransactionPoint_state (hh : (w.connections.getD c default).handle = some i)
    (hi : i < w.engine.handles.size) :
    ∃ (r : Nat) (w' : World), saveTransactionPoint c w =
        .ok ("S" ++ toString r ++ "D" ++ toString (w.connections.getD c default).depth) w' ∧
      (w'.connections.getD c default).handle = some i ∧
      (w'.connections.getD c default).depth = (w.connections.getD c default).depth + 1 ∧
      i < w'.engine.handles.size ∧
      w'.engine.handle i = (w.engine.handle i).pushSavepoint
        ("S" ++ toString r ++ "D" ++ toString (w.connections.getD c default).depth) := by
  obtain ⟨r, w', hs, hc, he⟩ := saveTransactionPoint_eq hh
  refine ⟨r, w', hs, ?_, ?_, ?_, ?_⟩
  · rw [hc]
    exact World.handle_withDepth.trans hh
  · rw [hc]
    exact World.depth_withDepth (World.lt_size_of_handle hh)
  · rw [he]
    simpa using hi
  · rw [he, Engine.handle_updateHandle_self hi]

theorem saveTransactionPoint_keeps (c : Nat) : KeepsTracking c (saveTransactionPoint c) := by
  rintro w ⟨i, hh, hi, ht⟩
  obtain ⟨r, w', hs, hh', hd', hi', he'⟩ := saveTransactionPoint_state hh hi
  rw [hs]
  refine ⟨i, hh', hi', ?_⟩
  show (w'.engine.handle i).Tracks (w'.connections.getD c default).depth
  rw [he', hd']
  exact ht.pushed r

theorem depthTracks_withDepth_zero (hh : (w.connections.getD c default).handle = some i)
    (hi : i < w.engine.handles.size) (ht : (w.engine.handle i).Tracks 0) :
    DepthTracks c (w.withDepth c 0) :=
  depthTracks_withDepth (e := w.engine) hh hi ht

theorem rollback_keeps (c : Nat) : KeepsTracking c (rollback c) := by
  rintro w ⟨i, hh, hi, ht⟩
  by_cases hd : (w.connections.getD c default).depth = 0
  · rw [rollback_of_depth_zero hd]
    exact depthTracks_withDepth_zero hh hi (hd ▸ ht)
  · have hpos : 0 < (w.connections.getD c default).depth := Nat.pos_of_ne_zero hd
    rw [rollback_of_open hh hpos (ht.open_iff.2 hpos)]
    refine depthTracks_withDepth hh (by simpa using hi) ?_
    rw [Engine.handle_updateHandle_self hi]
    exact Handle.Tracks.ended _

theorem commit_keeps (c : Nat) : KeepsTracking c (commit c) := by
  rintro w ⟨i, hh, hi, ht⟩
  by_cases hd : (w.connections.getD c default).depth = 0
  · rw [commit_of_depth_zero hd]
    exact depthTracks_withDepth_zero hh hi (hd ▸ ht)
  · have hpos : 0 < (w.connections.getD c default).depth := Nat.pos_of_ne_zero hd
    obtain ⟨e', he', hsize, hr⟩ := commit_of_open hh hi hpos (ht.open_iff.2 hpos)
    have hended : DepthTracks c { w.withDepth c 0 with engine := e' } :=
      depthTracks_withDepth hh (hsize ▸ hi) (he' ▸ Handle.Tracks.ended _)
    rcases hr with hr | ⟨f, -, hr⟩ <;> rw [hr] <;> exact hended

/-- `release` keeps the depth tracking the engine, except when it releases the savepoint made at
depth 0 of a transaction that wrote while another connection holds a lock on the file: the
engine refuses the commit as busy and the connection is left stranded. -/
theorem release_tracks_or_strands (c : Nat) (t : String) (w : World) (ht : DepthTracks c w) :
    DepthTracks c (finalWorld (release c t w)) ∨
      ∃ i w', (w.connections.getD c default).handle = some i ∧ savepointDepth? t = some 0 ∧
        (w.engine.handle i).work.isSome = true ∧ w.engine.lockedOut i = true ∧
        release c t w = .error (runError Fault.busy) w' ∧ Stranded c w' := by
  obtain ⟨i, hh, hi, ht⟩ := ht
  by_cases hvalid : ∃ m, savepointDepth? t = some m ∧ m < (w.connections.getD c default).depth
  · obtain ⟨m, hm, hlt⟩ := hvalid
    cases hf : Sql.Step.findSavepoint (w.engine.handle i) t with
    | none =>
      obtain ⟨msg, hr⟩ := savepointExecute_unknown hh hm hlt (Or.inl releaseText) hf
      unfold release
      rw [hr]
      exact Or.inl ⟨i, hh, hi, ht⟩
    | some found =>
      obtain ⟨sp, k⟩ := found
      obtain ⟨hk, hsp, hmk⟩ := ht.find_depth hm hf
      cases hb : sp.begins with
      | false =>
        -- an inner savepoint: the depth goes back to the savepoint's own
        have hinner := ht.succ_lt_of_begins_false hk (hsp ▸ hb)
        rw [release_inner hh hm hlt hf hb]
        refine Or.inl (depthTracks_withDepth hh (by simpa using hi) ?_)
        rw [Engine.handle_updateHandle_self hi, hmk, show (w.connections.getD c default).depth - 1 - k =
          (w.connections.getD c default).depth - (k + 1) by omega]
        exact ht.drop hk hinner
      | true =>
        -- the savepoint that opened the transaction, made at depth 0
        have hm0 : m = 0 := by
          have := (ht.begins k hk).1 (hsp ▸ hb)
          omega
        rcases release_outer hh hm hlt hi hf hb hm0 with ⟨-, hr⟩ | ⟨hw, hl, hr⟩ |
          ⟨e', hr, he', hfr, -, -⟩
        · rw [hr]
          exact Or.inl ⟨i, hh, hi, ht⟩
        · refine Or.inr ⟨i, _, hh, hm0 ▸ hm, hw, hl, hr, i, World.handle_withDepth.trans hh,
            World.depth_withDepth (World.lt_size_of_handle hh), ?_⟩
          show ((w.engine.updateHandle i fun h => { h with lock := .pending }).handle i).autocommit = false
          rw [Engine.handle_updateHandle_self hi]
          exact ht.open_iff.2 (by omega)
        · rw [hr]
          exact Or.inl (depthTracks_withDepth hh (hfr.size ▸ hi) (he' ▸ Handle.Tracks.ended _))
  · have hle : ∀ m, savepointDepth? t = some m → (w.connections.getD c default).depth ≤ m :=
      fun m hm => Nat.le_of_not_lt fun hlt => hvalid ⟨m, hm, hlt⟩
    unfold release
    rw [savepointExecute_of_not_lt hle]
    exact Or.inl ⟨i, hh, hi, ht⟩

/-- `rollback to` a name that finds a savepoint `k` places below the newest, made at depth `m`:
the call ends at depth `m` with the savepoints from that one up gone and the engine's state
standing for the depth. When the savepoint did not open the transaction, the connection counts
again the deferred violations the savepoint counted and nothing committed changes. Either way the
connection sees again the content the savepoint saw, or the committed content when the
transaction had not written by then, so long as the savepoint that opened the transaction kept no
copy, as none does. -/
theorem rollbackTo_found (hh : (w.connections.getD c default).handle = some i)
    (hi : i < w.engine.handles.size) (ht : (w.engine.handle i).Tracks (w.connections.getD c default).depth)
    {t : String} {m : Nat} (hm : savepointDepth? t = some m)
    (hlt : m < (w.connections.getD c default).depth) {sp : Sql.Savepoint} {k : Nat}
    (hf : Sql.Step.findSavepoint (w.engine.handle i) t = some (sp, k)) :
    ∃ e' : Engine, finalWorld (rollbackTo c t w) = { w.withDepth c m with engine := e' } ∧
      i < e'.handles.size ∧ (e'.handle i).Tracks m ∧
      (e'.handle i).savepoints = (w.engine.handle i).savepoints.drop (k + 1) ∧
      (sp.begins = false → (e'.handle i).deferredViolations = sp.deferred ∧
        e'.stores = w.engine.stores ∧ (e'.handle i).database = (w.engine.handle i).database) ∧
      ((sp.begins = true → sp.snapshot = none) →
        (w.engine.handle i).database < w.engine.stores.size →
        (e'.handle i).database < e'.stores.size ∧
          e'.view i = sp.snapshot.getD (w.engine.stores.getD (w.engine.handle i).database Sql.Store.empty)) := by
  obtain ⟨random, digits, hs, -⟩ := spelling_of_savepointDepth? hm
  have hne : t.isEmpty = false :=
    String.isEmpty_eq_false_iff.2 fun h0 => by subst h0; cases hm
  obtain ⟨hk, hsp, hmk⟩ := ht.find_depth hm hf
  have hcount := ht.count
  obtain ⟨n, hex⟩ := execute_rollbackTo (w := w.withDepth c m)
    (World.handle_withDepth.trans hh) hs rollbackToText hf
  -- rolled back to the savepoint, which is now the newest; the depth is the savepoint's
  let C := w.engine.stores.getD (w.engine.handle i).database Sql.Store.empty
  let e₁ := w.engine.updateHandle i fun h =>
    { h with work := sp.snapshot.or ((w.engine.handle i).work.map fun _ => C),
             savepoints := h.savepoints.drop k, deferredViolations := sp.deferred }
  have he₁ : e₁.handle i = { (w.engine.handle i) with
      work := sp.snapshot.or ((w.engine.handle i).work.map fun _ => C),
      savepoints := (w.engine.handle i).savepoints.drop k, deferredViolations := sp.deferred } :=
    Engine.handle_updateHandle_self hi
  have hview₁ : e₁.view i = sp.snapshot.getD C := by
    -- the committed content is untouched, and the copy is the savepoint's or a copy of it
    simp only [Engine.view, he₁]
    cases sp.snapshot <;> cases (w.engine.handle i).work <;> rfl
  have hi₁ : i < e₁.handles.size := by simpa [e₁] using hi
  have hh₁ : (({ w.withDepth c m with engine := e₁ } : World).connections.getD c default).handle =
      some i := World.handle_withDepth.trans hh
  have hf₁ : Sql.Step.findSavepoint (e₁.handle i) t = some (sp, 0) :=
    Sql.Step.findSavepoint_drop hf (by rw [he₁])
  have hrelease : ("release " ++ t).toList = "release".toList ++ ' ' :: t.toList := by simp
  have hsave : savepointExecute c t "rollback to" w = .ok () { w.withDepth c m with engine := e₁ } :=
    savepointExecute_of_ok hm hlt hex
  unfold rollbackTo
  rw [if_neg (by rw [hne]; decide), bind_of_eq_ok _ hsave]
  cases hb : sp.begins with
  | false =>
    -- a savepoint inside the transaction: its release drops it
    have hinner := ht.succ_lt_of_begins_false hk (hsp ▸ hb)
    obtain ⟨n', hex'⟩ := execute_release_inner hh₁ hs hrelease hf₁ hb
    rw [bind_of_eq_ok _ (attempt_of_eq_ok hex')]
    have he₂ := Engine.handle_updateHandle_self (f := fun h => { h with savepoints := h.savepoints.drop (0 + 1) }) hi₁
    refine ⟨_, rfl, by simpa using hi₁, ?_, ?_, fun _ => ⟨?_, rfl, ?_⟩, fun _ hdb => ⟨?_, ?_⟩⟩
    · rw [he₂, he₁, hmk, show (w.connections.getD c default).depth - 1 - k =
        (w.connections.getD c default).depth - (k + 1) by omega]
      exact (ht.drop hk hinner).of_open (by omega) rfl (by simp [List.drop_drop])
    · rw [he₂, he₁]
      simp [List.drop_drop]
    · rw [he₂, he₁]
    · rw [he₂, he₁]
    · rw [he₂, he₁]
      exact hdb
    · rw [← hview₁]
      simp only [Engine.view, he₂, Engine.stores_updateHandle]
  | true =>
    -- the savepoint opened the transaction: its release commits, and a refusal rolls back
    have hm0 : m = 0 := by
      have := (ht.begins k hk).1 (hsp ▸ hb)
      omega
    have hnil : (w.engine.handle i).savepoints.drop (k + 1) = [] := by
      have := (ht.begins k hk).1 (hsp ▸ hb)
      exact List.drop_eq_nil_of_le (by omega)
    have ha₁ : (e₁.handle i).autocommit = false := by
      rw [he₁]
      exact ht.open_iff.2 (by omega)
    -- a rollback after a refused release leaves the committed content, which the savepoint saw
    have hrolled : ∀ e' : Engine, (e'.handle i).work = none →
        (e'.handle i).database = (w.engine.handle i).database → e'.stores = w.engine.stores →
        (true = true → sp.snapshot = none) → (w.engine.handle i).database < w.engine.stores.size →
        (e'.handle i).database < e'.stores.size ∧ e'.view i = sp.snapshot.getD C := by
      intro e' hw hdb hst hsnap hlt'
      refine ⟨by rw [hdb, hst]; exact hlt', ?_⟩
      rw [hsnap rfl]
      simp only [Engine.view, hw, hdb, hst]
      rfl
    subst hm0
    rcases execute_release_outer hh₁ hs hi₁ hrelease hf₁ hb with
      ⟨-, hex'⟩ | ⟨-, -, hex'⟩ | ⟨n', e', hex', he', hfr, hsize, hv⟩
    · rw [bind_of_eq_ok _ (attempt_of_eq_error hex')]
      dsimp only
      rw [bind_of_eq_ok _ (forceRollbackQuietly_of_open hh₁ ha₁), World.withDepth_engine,
        World.withDepth_withDepth]
      have hended := Engine.handle_updateHandle_self (f := Handle.ended) hi₁
      refine ⟨_, rfl, by simpa using hi₁, ?_, ?_, fun h => absurd h (by simp),
        hrolled _ (by rw [hended]; rfl) (by rw [hended, he₁]; rfl) rfl⟩
      · rw [hended]
        exact Handle.Tracks.ended _
      · rw [hended, hnil]
        rfl
    · have ha₂ : ((e₁.updateHandle i fun h => { h with lock := .pending }).handle i).autocommit =
          false := by rw [Engine.handle_updateHandle_self hi₁]; exact ha₁
      rw [bind_of_eq_ok _ (attempt_of_eq_error hex')]
      dsimp only
      rw [bind_of_eq_ok _ (forceRollbackQuietly_of_open (w := { w.withDepth c 0 with
        engine := e₁.updateHandle i fun h => { h with lock := .pending } }) hh₁ ha₂),
        World.withDepth_engine, World.withDepth_withDepth]
      have hi₂ : i < (e₁.updateHandle i fun h => { h with lock := .pending }).handles.size := by
        simpa using hi₁
      have hended := Engine.handle_updateHandle_self (f := Handle.ended) hi₂
      refine ⟨_, rfl, by simpa using hi₁, ?_, ?_, fun h => absurd h (by simp),
        hrolled _ (by rw [hended]; rfl)
          (by rw [hended, Engine.handle_updateHandle_self hi₁, he₁]; rfl) rfl⟩
      · rw [hended]
        exact Handle.Tracks.ended _
      · rw [hended, hnil]
        rfl
    · -- the release commits what the connection saw after rolling back
      rw [bind_of_eq_ok _ (attempt_of_eq_ok hex')]
      refine ⟨e', rfl, hfr.size ▸ hi₁, ?_, ?_, fun h => absurd h (by simp), fun _ hdb => ⟨?_, ?_⟩⟩
      · rw [he']
        exact Handle.Tracks.ended _
      · rw [he', hnil]
        rfl
      · rw [hfr.database, hsize, he₁]
        exact hdb
      · rw [hv (by rw [he₁]; exact hdb), hview₁]

/-- `rollback to` keeps the depth tracking the engine, whatever the name: after rolling back to
the savepoint it releases it, and a refused release is followed by a rollback that does not look
at the depth. -/
theorem rollbackTo_keeps (c : Nat) (t : String) : KeepsTracking c (rollbackTo c t) := by
  rintro w ⟨i, hh, hi, ht⟩
  by_cases hempty : t.isEmpty = true
  · unfold rollbackTo
    rw [if_pos hempty]
    exact rollback_keeps c w ⟨i, hh, hi, ht⟩
  by_cases hvalid : ∃ m, savepointDepth? t = some m ∧ m < (w.connections.getD c default).depth
  swap
  · have hle : ∀ m, savepointDepth? t = some m → (w.connections.getD c default).depth ≤ m :=
      fun m hm => Nat.le_of_not_lt fun hlt => hvalid ⟨m, hm, hlt⟩
    unfold rollbackTo
    rw [if_neg hempty, bind_of_eq_error _ (savepointExecute_of_not_lt hle)]
    exact ⟨i, hh, hi, ht⟩
  obtain ⟨m, hm, hlt⟩ := hvalid
  cases hf : Sql.Step.findSavepoint (w.engine.handle i) t with
  | none =>
    obtain ⟨msg, hr⟩ := savepointExecute_unknown hh hm hlt (Or.inr rollbackToText) hf
    unfold rollbackTo
    rw [if_neg hempty, bind_of_eq_error _ hr]
    exact ⟨i, hh, hi, ht⟩
  | some found =>
    obtain ⟨e', hw', hi', ht', -, -⟩ := rollbackTo_found hh hi ht hm hlt hf
    rw [hw']
    exact depthTracks_withDepth hh hi' ht'

/-- A program that keeps the depth tracking the engine, or fails leaving it out of step. -/
def TracksUnlessOutOfStep {α : Type} (c : Nat) (p : Db α) : Prop :=
  ∀ w, DepthTracks c w → DepthTracks c (finalWorld (p w)) ∨
    ∃ e w', p w = .error e w' ∧ OutOfStep c e w'

namespace TracksUnlessOutOfStep

variable {α γ : Type} {c : Nat}

theorem of_keeps {p : Db α} (hp : KeepsTracking c p) : TracksUnlessOutOfStep c p :=
  fun w ht => Or.inl (hp w ht)

theorem pure (a : α) : TracksUnlessOutOfStep c (Pure.pure a : Db α) := fun _ ht => Or.inl ht

theorem tracks_of_eq_ok {p : Db α} (hp : TracksUnlessOutOfStep c p) {w w' : World} {a : α}
    (ht : DepthTracks c w) (h : p w = .ok a w') : DepthTracks c w' := by
  rcases hp w ht with h' | ⟨e, w'', h', -⟩
  · rwa [h] at h'
  · rw [h] at h'
    cases h'

/-- Sequencing: a failure that leaves the depth out of step ends the program with its error. -/
theorem bind {p : Db α} {f : α → Db γ} (hp : TracksUnlessOutOfStep c p)
    (hf : ∀ a, TracksUnlessOutOfStep c (f a)) : TracksUnlessOutOfStep c (p >>= f) := by
  intro w ht
  cases hrun : p w with
  | ok a w₁ =>
    rw [bind_of_eq_ok _ hrun]
    exact hf a w₁ (hp.tracks_of_eq_ok ht hrun)
  | error e w₁ =>
    rw [bind_of_eq_error _ hrun]
    rcases hp w ht with h | ⟨e', w', h, hs⟩
    · rw [hrun] at h
      exact Or.inl h
    · rw [hrun] at h
      cases h
      exact Or.inr ⟨_, _, rfl, hs⟩

end TracksUnlessOutOfStep

theorem quietly_apply (p : Db Unit) (w : World) : quietly p w = .ok () (finalWorld (p w)) := by
  cases h : p w with
  | ok a w' => exact quietly_of_eq_ok h
  | error e w' => exact quietly_of_eq_error h

theorem release_tracks_unless_out_of_step (c : Nat) (t : String) :
    TracksUnlessOutOfStep c (release c t) := fun w ht =>
  (release_tracks_or_strands c t w ht).imp_right fun ⟨_, w', _, _, _, _, hr, hs⟩ =>
    ⟨_, w', hr, Or.inl ⟨rfl, hs⟩⟩

theorem rollbackTo_of_not_lt {c : Nat} {t : String} {w : World}
    (h : ∀ m, savepointDepth? t = some m → (w.connections.getD c default).depth ≤ m)
    (hne : t.isEmpty = false) :
    rollbackTo c t w = .error (invalidSavepoint t) w := by
  unfold rollbackTo
  rw [if_neg (by rw [hne]; decide)]
  exact bind_of_eq_error _ (savepointExecute_of_not_lt h)

/-- Out of step, `rollback to` a name is refused and changes nothing: stranded at depth 0 no name
is below the depth, and unwound the engine has no savepoint to find. -/
theorem rollbackTo_of_outOfStep {c : Nat} {t : String} {e : Error} {w : World}
    (ho : OutOfStep c e w) (hne : t.isEmpty = false) : ∃ err, rollbackTo c t w = .error err w := by
  rcases ho with ⟨-, i, hh, hd, -⟩ | ⟨i, hh, -, -, hs⟩
  · exact ⟨_, rollbackTo_of_not_lt (fun m _ => hd ▸ Nat.zero_le m) hne⟩
  by_cases hvalid : ∃ m, savepointDepth? t = some m ∧ m < (w.connections.getD c default).depth
  · obtain ⟨m, hm, hlt⟩ := hvalid
    have hf : Sql.Step.findSavepoint (w.engine.handle i) t = none := by
      simp [Sql.Step.findSavepoint, hs]
    obtain ⟨msg, hr⟩ := savepointExecute_unknown hh hm hlt (Or.inr rollbackToText) hf
    unfold rollbackTo
    rw [if_neg (by rw [hne]; decide)]
    exact ⟨_, bind_of_eq_error _ hr⟩
  · exact ⟨_, rollbackTo_of_not_lt
      (fun m hm => Nat.le_of_not_lt fun hlt => hvalid ⟨m, hm, hlt⟩) hne⟩

/-- `runInTransaction` keeps the depth tracking the engine when its body does, except that a body
that leaves the depth out of step leaves it so, and that its own closing release strands the
connection when the call began at depth 0 and that release commits and is refused as busy. -/
theorem runInTransaction_tracks_unless_out_of_step {β ε α : Type} (c : Nat) (lift : Error → ε)
    {body : Db (β × Except ε α)} (hbody : TracksUnlessOutOfStep c body) (w : World)
    (ht : DepthTracks c w) :
    DepthTracks c (finalWorld (runInTransaction c lift body w)) ∨
      (∃ e w', runInTransaction c lift body w = .error e w' ∧ OutOfStep c e w') ∨
      ∃ b w', (w.connections.getD c default).depth = 0 ∧
        runInTransaction c lift body w = .ok (b, .error (lift (runError Fault.busy))) w' ∧
        Stranded c w' := by
  obtain ⟨i, hh, -, -⟩ := id ht
  obtain ⟨r, w₁, hs, -, -⟩ := saveTransactionPoint_eq hh
  have ht₁ : DepthTracks c w₁ := by
    have := saveTransactionPoint_keeps c w ht
    rwa [hs] at this
  unfold runInTransaction
  rw [bind_of_eq_ok _ hs]
  -- the savepoint's name, made at the depth the call began at
  generalize htoken : "S" ++ toString r ++ "D" ++ toString (w.connections.getD c default).depth = token
  have hne : token.isEmpty = false := by
    rw [← htoken]
    simp
  rcases hbody w₁ ht₁ with hb | ⟨e, w₂, hb, hout⟩
  · cases hrun : body w₁ with
    | error e w₂ =>
      rw [hrun] at hb
      rw [bind_of_eq_ok _ (attempt_of_eq_error hrun)]
      dsimp only
      rw [bind_of_eq_ok _ (quietly_apply _ w₂)]
      exact Or.inl (rollbackTo_keeps c token w₂ hb)
    | ok res w₂ =>
      rw [hrun] at hb
      rw [bind_of_eq_ok _ (attempt_of_eq_ok hrun)]
      obtain ⟨b, e | a⟩ := res
      · dsimp only
        rw [bind_of_eq_ok _ (quietly_apply _ w₂)]
        exact Or.inl (rollbackTo_keeps c token w₂ hb)
      · dsimp only
        rcases release_tracks_or_strands c token w₂ hb with hr | ⟨-, w₃, -, h0, -, -, hr, hstrand⟩
        · left
          obtain ⟨o, ho⟩ := attempt_eq (release c token) w₂
          rw [bind_of_eq_ok _ ho]
          cases o <;> exact hr
        · -- the closing release strands the connection; its name says the call began at depth 0
          rw [← htoken] at h0
          refine Or.inr (Or.inr ⟨b, w₃, (eq_of_savepointDepth?_madeName h0).symm, ?_, hstrand⟩)
          rw [bind_of_eq_ok _ (attempt_of_eq_error hr)]
          rfl
  · -- out of step after the body: rolling back to the name is refused and changes nothing
    obtain ⟨err, hrb⟩ := rollbackTo_of_outOfStep hout hne
    rw [bind_of_eq_ok _ (attempt_of_eq_error hb)]
    dsimp only
    rw [bind_of_eq_ok _ (quietly_of_eq_error hrb)]
    exact Or.inr (Or.inl ⟨e, w₂, rfl, hout⟩)

/-! ## Statements that control no transaction -/

theorem Command.text_bindAll (cmd : Command) (vs : List Value) : (cmd.bindAll vs).text = cmd.text := by
  induction vs generalizing cmd with
  | nil => rfl
  | cons v vs ih => exact ih (cmd.bind v)

/-- A statement that controls no transaction keeps the engine's transaction of its connection,
or fails because a write's failure was resolved by rolling back: the engine then ended the
transaction that was open, and the fault says so. -/
theorem execute_guards (hh : (w.connections.getD c default).handle = some i)
    (hi : i < w.engine.handles.size) {text : String} (args : List Value)
    (hc : Sql.controlsTransaction text = false) :
    (∃ e', finalWorld (execute c text args w) = { w with engine := e' } ∧ Engine.Kept i w.engine e') ∨
      ∃ f e', execute c text args w = .error (runError f) { w with engine := e' } ∧
        f.undo = .transaction ∧ Engine.RolledBack i w.engine e' := by
  unfold execute
  have htext := Command.text_bindAll (Command.mk text []) args
  cases hb : prepare c ((Command.mk text []).bindAll args) w with
  | error err w' =>
    -- a command that cannot be prepared does not run
    have hw : w' = w := by
      have := @Keeps.prepare c ((Command.mk text []).bindAll args) _ id w
      rwa [hb] at this
    refine Or.inl ⟨w.engine, ?_, Engine.Kept.refl i _⟩
    unfold executeNonQuery
    rw [bind_of_eq_error _ hb, hw]
    rfl
  | ok b w' =>
    obtain ⟨rfl, hp⟩ := prepare_prepared hh hb
    rw [htext] at hp
    obtain ⟨hs, hpl⟩ := Engine.prepare_ordinary hp hc
    rcases Engine.transactionLaws.ordinary b.params hs hpl w'.engine hi with k | ⟨f, e', hr, hu, hrb⟩
    · cases hr : Engine.run i b.prepared b.params w'.engine with
      | ok out e' =>
        rw [hr] at k
        exact Or.inl ⟨e', (executeNonQuery_of_run_ok hh hb hr).1, k⟩
      | error f e' =>
        rw [hr] at k
        exact Or.inl ⟨e', by rw [executeNonQuery_of_run_error hh hb hr]; rfl, k⟩
    · exact Or.inr ⟨f, e', executeNonQuery_of_run_error hh hb hr, hu, hrb⟩

theorem execute_tracks_unless_unwound (c : Nat) {text : String} (args : List Value)
    (hc : Sql.controlsTransaction text = false) (w : World) (ht : DepthTracks c w) :
    DepthTracks c (finalWorld (execute c text args w)) ∨
      ∃ f w', execute c text args w = .error (runError f) w' ∧ f.undo = .transaction ∧
        Unwound c w' := by
  obtain ⟨i, hh, hi, ht⟩ := ht
  rcases execute_guards hh hi args hc with ⟨e', hw, k⟩ | ⟨f, e', hr, hu, hrb⟩
  · rw [hw]
    exact Or.inl ⟨i, hh, k.size hi, ht.of_kept k⟩
  · -- the transaction was open, so the depth was above 0, and it still is
    exact Or.inr ⟨f, _, hr, hu, i, hh, ht.open_iff.1 hrb.wasOpen, hrb.closed,
      (hrb.idle hrb.closed).1⟩

theorem execute_tracks_unless_out_of_step (c : Nat) {text : String} (args : List Value)
    (hc : Sql.controlsTransaction text = false) : TracksUnlessOutOfStep c (execute c text args) :=
  fun w ht => (execute_tracks_unless_unwound c args hc w ht).imp_right
    fun ⟨_, w', hr, _, hu⟩ => ⟨_, w', hr, Or.inr hu⟩

end Tracking

/-! ## Sessions of calls -/

/-- The calls on a connection: those that move the depth of its transactions, with any names
given to `release` and `rollbackTo`, and statement text run with values. -/
inductive Call where
  | begin
  | savepoint
  | release (token : String)
  | rollbackTo (token : String)
  | commit
  | rollback
  /-- `runInTransaction` around a body of calls that stops at the first that fails and hands
  its failure back. -/
  | inTransaction (body : List Call)
  /-- Statement text run for its change count. -/
  | statement (text : String) (args : List Value)

mutual

/-- Runs one call on connection `c`. -/
def Call.run (c : Nat) : Call → Db Unit
  | .begin => beginTransaction c
  | .savepoint => do let _ ← saveTransactionPoint c; pure ()
  | .release t => Db.release c t
  | .rollbackTo t => Db.rollbackTo c t
  | .commit => Db.commit c
  | .rollback => Db.rollback c
  | .inTransaction body => do
    let res ← runInTransaction c id (do Call.runAll c body; pure ((), (.ok () : Outcome Unit)))
    ofOutcome res.2
  | .statement text args => do let _ ← execute c text args; pure ()

/-- Runs calls one after another on connection `c`, stopping at the first that fails. -/
def Call.runAll (c : Nat) : List Call → Db Unit
  | [] => pure ()
  | call :: rest => do Call.run c call; Call.runAll c rest

end

mutual

/-- Whether no statement text among the calls controls the transaction. -/
def Call.ordinary : Call → Bool
  | .inTransaction body => Call.allOrdinary body
  | .statement text _ => !Sql.controlsTransaction text
  | _ => true

/-- Whether no statement text among the calls, or in their bodies, controls the transaction. -/
def Call.allOrdinary : List Call → Bool
  | [] => true
  | call :: rest => call.ordinary && Call.allOrdinary rest

end

/-- Runs calls one after another on connection `c`, going on past a call that fails, as an
application does that handles each failure. -/
def Call.session (c : Nat) : List Call → Db Unit
  | [] => pure ()
  | call :: rest => do quietly (call.run c); Call.session c rest

theorem finalWorld_ofOutcome {α : Type} (o : Outcome α) (w : World) :
    finalWorld (ofOutcome o w) = w := by
  cases o <;> rfl

mutual

/-- Every call keeps the depth tracking the engine, or fails leaving it out of step. -/
theorem Call.run_tracks_unless_out_of_step (c : Nat) :
    (call : Call) → call.ordinary = true → TracksUnlessOutOfStep c (call.run c)
  | .begin, _ => .of_keeps (beginTransaction_keeps c)
  | .savepoint, _ => .bind (.of_keeps (saveTransactionPoint_keeps c)) fun _ => .pure ()
  | .release t, _ => release_tracks_unless_out_of_step c t
  | .rollbackTo t, _ => .of_keeps (rollbackTo_keeps c t)
  | .commit, _ => .of_keeps (commit_keeps c)
  | .rollback, _ => .of_keeps (rollback_keeps c)
  | .statement text args, h =>
    .bind (execute_tracks_unless_out_of_step c args (by simpa [Call.ordinary] using h)) fun _ =>
      .pure ()
  | .inTransaction body, h => by
    intro w ht
    have hbody : TracksUnlessOutOfStep c
        (do Call.runAll c body; pure ((), (.ok () : Outcome Unit)) : Db (Unit × Outcome Unit)) :=
      .bind (Call.runAll_tracks_unless_out_of_step c body h) fun _ => .pure _
    show DepthTracks c (finalWorld ((runInTransaction c id _ >>= fun res => ofOutcome res.2) w)) ∨ _
    rcases runInTransaction_tracks_unless_out_of_step c id hbody w ht with
      h | ⟨e, w', h, hs⟩ | ⟨b, w', -, h, hs⟩
    · left
      cases hr : runInTransaction c id _ w with
      | ok res w' =>
        rw [hr] at h
        rw [bind_of_eq_ok _ hr, finalWorld_ofOutcome]
        exact h
      | error e w' =>
        rw [hr] at h
        rw [bind_of_eq_error _ hr]
        exact h
    · exact Or.inr ⟨e, w', bind_of_eq_error _ h, hs⟩
    · exact Or.inr ⟨_, w', (bind_of_eq_ok _ h).trans rfl, Or.inl ⟨rfl, hs⟩⟩

theorem Call.runAll_tracks_unless_out_of_step (c : Nat) :
    (calls : List Call) → Call.allOrdinary calls = true → TracksUnlessOutOfStep c (Call.runAll c calls)
  | [], _ => .pure ()
  | call :: rest, h => by
    have h' : call.ordinary = true ∧ Call.allOrdinary rest = true := by
      simpa [Call.allOrdinary] using h
    exact .bind (Call.run_tracks_unless_out_of_step c call h'.1) fun _ =>
      Call.runAll_tracks_unless_out_of_step c rest h'.2

end

/-- Along any session of calls, with any names, any bodies of calls and any statements that
control no transaction, the depth keeps tracking the engine until a call fails leaving it out of
step: stranded by a commit refused as busy, or unwound by a write whose failure is resolved by
rolling back. -/
theorem session_tracks_until_out_of_step (c : Nat) (calls : List Call)
    (hcalls : Call.allOrdinary calls = true) (w : World) (ht : DepthTracks c w) :
    DepthTracks c (finalWorld (Call.session c calls w)) ∨
      ∃ pre call post w₁ e w₂, calls = pre ++ call :: post ∧ Call.session c pre w = .ok () w₁ ∧
        DepthTracks c w₁ ∧ call.run c w₁ = .error e w₂ ∧ OutOfStep c e w₂ := by
  induction calls generalizing w with
  | nil => exact Or.inl ht
  | cons call rest ih =>
    have hc : call.ordinary = true ∧ Call.allOrdinary rest = true := by
      simpa [Call.allOrdinary] using hcalls
    have hstep : Call.session c (call :: rest) w =
        Call.session c rest (finalWorld (call.run c w)) :=
      bind_of_eq_ok _ (quietly_apply _ w)
    rcases Call.run_tracks_unless_out_of_step c call hc.1 w ht with h | ⟨e, w₂, h, hs⟩
    · rcases ih hc.2 _ h with h' | ⟨pre, call', post, w₁, e, w₂, hcalls, hpre, ht₁, hrun, hs⟩
      · rw [hstep]
        exact Or.inl h'
      · refine Or.inr ⟨call :: pre, call', post, w₁, e, w₂, by rw [hcalls]; rfl, ?_, ht₁, hrun, hs⟩
        exact (bind_of_eq_ok _ (quietly_apply _ w)).trans hpre
    · exact Or.inr ⟨[], call, rest, w, e, w₂, rfl, rfl, ht, h, hs⟩

/-- One connection, open on a database of its own, outside any transaction. -/
def freshWorld : World :=
  { engine := ⟨.alone, #[Sql.Store.empty], #[{ database := 0 }]⟩,
    connections := #[{ handle := some 0, path := "" }] }

theorem freshWorld_tracks : DepthTracks 0 freshWorld :=
  ⟨0, rfl, Nat.one_pos, Handle.Tracks.zero rfl rfl rfl⟩

theorem controlsTransaction_deleteAll : Sql.controlsTransaction "delete from t" = false :=
  Sql.controlsTransaction_of_data (w := "delete".toList) (by decide)
    (show "delete from t".toList = "delete".toList ++ ' ' :: "from t".toList by decide)
    (Or.inr (Or.inr (by decide)))

theorem nested_session_tracks :
    DepthTracks 0 freshWorld ∧
      Call.allOrdinary [.begin, .inTransaction [.savepoint, .statement "delete from t" [], .commit],
        .release "S1D0", .rollback] = true ∧
      (DepthTracks 0 (finalWorld (Call.session 0 [.begin, .inTransaction [.savepoint,
          .statement "delete from t" [], .commit], .release "S1D0", .rollback] freshWorld)) ∨
        ∃ pre call post w₁ e w₂, [Call.begin, .inTransaction [.savepoint,
            .statement "delete from t" [], .commit], .release "S1D0", .rollback] = pre ++ call :: post ∧
          Call.session 0 pre freshWorld = .ok () w₁ ∧ DepthTracks 0 w₁ ∧
          call.run 0 w₁ = .error e w₂ ∧ OutOfStep 0 e w₂) := by
  have hcalls : Call.allOrdinary [.begin, .inTransaction [.savepoint, .statement "delete from t" [],
      .commit], .release "S1D0", .rollback] = true := by
    simp [Call.allOrdinary, Call.ordinary, controlsTransaction_deleteAll]
  exact ⟨freshWorld_tracks, hcalls,
    session_tracks_until_out_of_step 0 _ hcalls freshWorld freshWorld_tracks⟩

end Db

end RecordMap
