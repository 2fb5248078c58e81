import RecordMap.Proofs.Database.Migration
import RecordMap.Database.TableQuery

/-!
# Streaming a query agrees with reading it at once

A statement hands out its rows as it is stepped, and the step after the last row may fail
(`Db.steps`). Reading those rows into records one at a time, stopping at the first failure, gives
the records read and the error that stopped the reading, if any (`readRows`). Reading every record
at once fails exactly when that reading stops with an error and otherwise gives its records
(`Db.executeQuery_eq`); a pass over a deferred query hands out the first items of the same
reading: each record, then the error, then nothing more (`passItems_eq`, `Db.runPass_eq`).

So `toList` and the passes over the rows of the deferred query agree (`rows_stream_as_list`).
Every pass over a deferred query steps its statement again from the first row, so while stepping
it leaves the world as it was, every pass hands out the start of one reading
(`Db.deferred_passes_eq`); a query on a connection at rest to a private database leaves it so
(`Db.steps_of_atRest`). Records read at once are handed out once, each pass going on where the
one before it stopped (`Db.eager_passes_eq`).
-/
namespace RecordMap

open RecordMap.Sql (Datum)

/-- How reading rows into records one at a time ends: the records read, and the error that
stopped it, if one did. -/
structure Reading where
  records : List (List Value)
  stop : Option Error

namespace Reading

/-- The items reading hands out: each record read, then the error that stopped it. -/
def items (r : Reading) : List (Outcome (List Value)) :=
  r.records.map .ok ++ (r.stop.map .error).toList

/-- A pass asking for `n` items: the first `n` items of the reading. It reaches its end when it
asks for more items than there are records. -/
def pass (r : Reading) (n : Nat) : Pass :=
  ⟨r.items.take n, decide (r.records.length < n)⟩

/-- Every record at once: the records read, or the error that stopped the reading. -/
def outcome (r : Reading) : Outcome (List (List Value)) :=
  match r.stop with
  | none => .ok r.records
  | some e => .error e

theorem outcome_of_stop_eq_some {r : Reading} {e : Error} (h : r.stop = some e) :
    r.outcome = .error e := by
  simp [outcome, h]

theorem outcome_of_stop_eq_none {r : Reading} (h : r.stop = none) : r.outcome = .ok r.records := by
  simp [outcome, h]

end Reading

/-- Reads rows into records one at a time, stopping at the first row that cannot be read;
`failure` is the error of the step after the last row, when that step failed. -/
def readRows (rt : RecordType) (slots : List (Option Column)) (failure : Option Error) :
    List (List Datum) → Reading
  | [] => ⟨[], failure⟩
  | row :: rest =>
    match Db.materialize rt slots row with
    | .ok r =>
      let more := readRows rt slots failure rest
      ⟨r :: more.records, more.stop⟩
    | .error f => ⟨[], some (.unsupportedType f)⟩

section Reading

variable (rt : RecordType) (slots : List (Option Column)) (failure : Option Error)

/-- A pass over rows hands out the first items of reading them one at a time. -/
theorem passItems_eq (n : Nat) (rows : List (List Datum)) :
    passItems rt slots failure n rows =
      (((readRows rt slots failure rows).pass n).items,
        ((readRows rt slots failure rows).pass n).finished) := by
  fun_induction passItems rt slots failure n rows with
  | case1 rows => simp [Reading.pass]
  | case2 n =>
    cases failure <;> simp [readRows, Reading.pass, Reading.items]
  | case3 n row rest r hr more finished hmore ih =>
    rw [hmore] at ih
    obtain ⟨rfl, rfl⟩ := Prod.mk.inj ih
    simp [readRows, hr, Reading.pass, Reading.items]
  | case4 n row rest f hf =>
    simp [readRows, hf, Reading.pass, Reading.items]

/-- Reading every row at once succeeds with records only when reading them one at a time reads
them all, and then stops as the last step did. -/
theorem readRows_of_mapM_eq_ok {rows : List (List Datum)} {rs : List (List Value)}
    (h : rows.mapM (fun row => (Db.materialize rt slots row).mapError Error.unsupportedType) =
      .ok rs) :
    readRows rt slots failure rows = ⟨rs, failure⟩ := by
  induction rows generalizing rs with
  | nil =>
    cases h
    rfl
  | cons row rest ih =>
    rw [List.mapM_cons] at h
    cases hr : Db.materialize rt slots row with
    | error f =>
      rw [hr] at h
      cases h
    | ok r =>
      cases hrest : rest.mapM (fun row => (Db.materialize rt slots row).mapError
          Error.unsupportedType) with
      | error e =>
        rw [hr, hrest] at h
        cases h
      | ok more =>
        rw [hr, hrest] at h
        cases h
        simp [readRows, hr, ih hrest]

/-- Reading every row at once fails with the error that stops reading them one at a time. -/
theorem readRows_stop_of_mapM_eq_error {rows : List (List Datum)} {e : Error}
    (h : rows.mapM (fun row => (Db.materialize rt slots row).mapError Error.unsupportedType) =
      .error e) :
    (readRows rt slots failure rows).stop = some e := by
  induction rows with
  | nil => cases h
  | cons row rest ih =>
    rw [List.mapM_cons] at h
    cases hr : Db.materialize rt slots row with
    | error f =>
      rw [hr] at h
      cases h
      simp [readRows, hr]
    | ok r =>
      cases hrest : rest.mapM (fun row => (Db.materialize rt slots row).mapError
          Error.unsupportedType) with
      | error e' =>
        rw [hr, hrest] at h
        cases h
        simp [readRows, hr, ih hrest]
      | ok more =>
        rw [hr, hrest] at h
        cases h

end Reading

namespace Db

theorem ofTyped_eq {α : Type} (o : Except TypeFault α) :
    ofTyped o = ofOutcome (o.mapError Error.unsupportedType) := by
  cases o <;> rfl

theorem steps_eq_ok (c : Nat) (b : Bound) (w : World) : ∃ s w', steps c b w = .ok s w' := by
  unfold steps
  cases h : stream c b w with
  | ok out w' =>
    exact ⟨(out.rows, out.failure.map runError), w', by rw [bind_of_eq_ok _ (attempt_of_eq_ok h)]; rfl⟩
  | error e w' =>
    exact ⟨([], some e), w', by rw [bind_of_eq_ok _ (attempt_of_eq_error h)]; rfl⟩

/-- Reading a query's records at once is preparing it as a deferred query, stepping its
statement and reading every row it handed out. -/
theorem executeQuery_eq (c : Nat) (rt : RecordType) (cmd : Command) :
    executeQuery c rt cmd = executeDeferred c rt cmd >>= fun d =>
      steps c d.bound >>= fun s => ofOutcome (readRows d.recordType d.slots s.2 s.1).outcome := by
  unfold executeQuery executeDeferred
  simp only [bind_assoc, pure_bind]
  refine congrArg _ (funext fun m => congrArg _ (funext fun b => congrArg _ (funext fun s => ?_)))
  obtain ⟨rows, failure⟩ := s
  dsimp only
  simp only [ofTyped_eq]
  rw [mapM_ofOutcome]
  cases hm : rows.mapM fun row =>
      (materialize rt (columnSlots m b.prepared.columns) row).mapError Error.unsupportedType with
  | ok rs =>
    rw [readRows_of_mapM_eq_ok _ _ failure hm]
    cases failure <;> rfl
  | error e =>
    rw [Reading.outcome_of_stop_eq_some (readRows_stop_of_mapM_eq_error _ _ failure hm)]
    rfl

theorem runPass_eq (c : Nat) (d : Deferred) (n : Nat) :
    runPass c d n = steps c d.bound >>= fun s =>
      pure ((readRows d.recordType d.slots s.2 s.1).pass n) := by
  unfold runPass
  refine congrArg _ (funext fun s => ?_)
  obtain ⟨rows, failure⟩ := s
  dsimp only
  rw [passItems_eq]

theorem rows_deferred_eq (c : Nat) (q : TableQuery) :
    rows c q.deferred = (ofOutcome (q.generate "*") >>= executeDeferred c q.recordType) >>=
      fun d => pure (.deferred d) := by
  rw [bind_assoc]
  rfl

theorem toList_eq_deferred (c : Nat) (q : TableQuery) :
    toList c q = (ofOutcome (q.generate "*") >>= executeDeferred c q.recordType) >>= fun d =>
      steps c d.bound >>= fun s => ofOutcome (readRows d.recordType d.slots s.2 s.1).outcome := by
  rw [bind_assoc]
  unfold toList
  simp only [executeQuery_eq]

theorem rows_eager_eq (c : Nat) {q : TableQuery} (hq : q.state.deferred = false) :
    rows c q = toList c q >>= fun rs => pure (.eager rs) := by
  unfold rows toList
  simp only [hq, bind_assoc]
  rfl

/-- Passes over records read at once never touch the world. -/
theorem eager_passes_eq (c : Nat) (rs : List (List Value)) (ts : List Nat) (w : World) :
    ∃ ps, (QueryRows.eager rs).passes c ts w = .ok ps w ∧
      ∀ k, ps[k]? = ts[k]?.map (Reading.pass ⟨rs.drop (ts.take k).sum, none⟩) := by
  induction ts generalizing rs with
  | nil => exact ⟨[], rfl, fun k => rfl⟩
  | cons t ts ih =>
    obtain ⟨ps, hps, hk⟩ := ih (rs.drop t)
    refine ⟨⟨(rs.take t).map .ok, decide (rs.length < t)⟩ :: ps, ?_, fun k => ?_⟩
    · simp only [QueryRows.passes, QueryRows.pass]
      rw [pure_bind]
      exact bind_of_eq_ok _ hps
    · cases k with
      | zero => simp [Reading.pass, Reading.items, List.map_take]
      | succ k => simp [hk, List.drop_drop]

/-- While a deferred query's statement hands out the same rows and leaves the world as it was,
every pass over it hands out the first items of the same reading. -/
theorem deferred_passes_eq (c : Nat) (d : Deferred) (ts : List Nat) {w : World}
    {rows : List (List Datum)} {failure : Option Error}
    (h : steps c d.bound w = .ok (rows, failure) w) :
    (QueryRows.deferred d).passes c ts w =
      .ok (ts.map (readRows d.recordType d.slots failure rows).pass) w := by
  induction ts with
  | nil => rfl
  | cons t ts ih =>
    have hpass : runPass c d t w = .ok ((readRows d.recordType d.slots failure rows).pass t) w := by
      rw [runPass_eq]
      exact bind_of_eq_ok _ h
    simp only [QueryRows.passes, QueryRows.pass, bind_assoc]
    rw [bind_of_eq_ok _ hpass, pure_bind]
    exact bind_of_eq_ok _ ih

theorem eq_error_of_bind_pure {α γ : Type} {p : Db α} {f : α → γ} {w w' : World} {e : Error}
    (h : (p >>= fun a => pure (f a)) w = .error e w') : p w = .error e w' := by
  cases hp : p w with
  | ok a w₁ =>
    rw [bind_of_eq_ok _ hp] at h
    cases h
  | error e₁ w₁ =>
    rw [bind_of_eq_error _ hp] at h
    cases h
    rfl

end Db

/-! ## Stepping a query at rest leaves the world as it was -/

namespace Sql

/-- A connection outside a transaction that holds nothing, as each statement of its own leaves
it. -/
def Handle.atRest (h : Handle) : Bool :=
  h.autocommit && h.work.isNone && h.savepoints.isEmpty && h.lock == .none && h.reads.isEmpty &&
    h.writes.isEmpty && !h.writer && h.deferredViolations == 0

theorem Handle.rest_of_atRest {h : Handle} (hr : h.atRest = true) :
    { h with autocommit := true, work := none, savepoints := [], lock := .none,
             reads := [], writes := [], writer := false, deferredViolations := 0 } = h := by
  obtain ⟨database, autocommit, work, savepoints, lock, reads, writes, writer, changes, totalChanges,
    lastRowid, queryOnly, readOnly, busyTimeout, foreignKeys, deferredViolations, live⟩ := h
  simp only [Handle.atRest, Bool.and_eq_true, beq_iff_eq, Option.isNone_iff_eq_none,
    List.isEmpty_iff, Bool.not_eq_true'] at hr
  obtain ⟨⟨⟨⟨⟨⟨⟨rfl, rfl⟩, rfl⟩, rfl⟩, rfl⟩, rfl⟩, rfl⟩, rfl⟩ := hr
  rfl

private theorem array_modify_of_fixed {α : Type} {a : Array α} {i : Nat} {f : α → α}
    (h : ∀ hi : i < a.size, f a[i] = a[i]) : a.modify i f = a := by
  apply Array.ext (by simp)
  intro j hj _
  rw [Array.getElem_modify]
  split
  · subst i
    exact h _
  · rfl

namespace Step

theorem bind_of_eq_ok {α γ : Type} {p : Step α} (f : α → Step γ) {e e₁ : Engine} {a : α}
    (h : p e = .ok a e₁) : (p >>= f) e = f a e₁ := by
  change EStateM.bind p f e = _
  unfold EStateM.bind
  rw [h]

theorem get_bind {γ : Type} (f : Engine → Step γ) (e : Engine) :
    (MonadState.get >>= f) e = f e e := rfl

theorem takeShared_of_alone {e : Engine} (i : Nat) (hs : e.sharing = .alone) :
    takeShared i e = .ok () e := by
  unfold takeShared
  rw [get_bind]
  simp only [hs]
  rfl

theorem lockReads_of_alone {e : Engine} (i : Nat) (tables : List String)
    (hs : e.sharing = .alone) : lockReads i tables e = .ok () e := by
  unfold lockReads
  rw [get_bind]
  simp only [hs]
  rfl

theorem endStatement_of_atRest {e : Engine} {i : Nat} (hr : (e.handle i).atRest = true) :
    endStatement i e = .ok () e := by
  have hauto : (e.handle i).autocommit = true := by
    simp only [Handle.atRest, Bool.and_eq_true] at hr
    exact hr.1.1.1.1.1.1.1
  unfold endStatement
  rw [bind_of_eq_ok _ (show handle i e = .ok (e.handle i) e from rfl)]
  simp only [hauto, if_true]
  show EStateM.Result.ok () { e with handles := e.handles.modify i _ } = _
  rw [array_modify_of_fixed]
  intro hi
  have hget : e.handle i = e.handles[i] := by simp [Engine.handle, hi]
  rw [← hget]
  exact Handle.rest_of_atRest hr

theorem statement_of_eq_ok {α : Type} {body : Step α} {i : Nat} {e e₁ e₂ : Engine} {a : α}
    (hb : body e = .ok a e₁) (he : endStatement i e₁ = .ok () e₂) :
    statement i body e = .ok a e₂ := by
  unfold statement
  show EStateM.tryCatch _ _ e = _
  delta EStateM.tryCatch
  beta_reduce
  rw [bind_of_eq_ok _ hb, bind_of_eq_ok _ he]
  rfl

end Step

theorem Engine.run_of_schema {e : Engine} {i : Nat} {p : Prepared} (params : Array Datum)
    (hv : (e.view i).schemaVersion = p.schema) :
    Engine.run i p params e = Engine.runPlan i p.plan p.columns params e := by
  unfold Engine.run
  rw [Step.get_bind, if_pos (by rw [hv]; exact beq_self_eq_true _), pure_bind]

/-- A query on a connection at rest to a private database, prepared against the schema the
connection sees: running it hands out the rows of stepping the query and leaves the engine as it
was. -/
theorem Engine.run_query_of_atRest {e : Engine} {i : Nat} {p : Prepared} {q : QueryPlan}
    (params : Array Datum) (hs : e.sharing = .alone) (hr : (e.handle i).atRest = true)
    (hv : (e.view i).schemaVersion = p.schema) (hp : p.plan = .query q) :
    Engine.run i p params e =
      .ok ⟨p.columns, (stepQuery { store := e.view i, params, call := e.env i } q).1,
        (stepQuery { store := e.view i, params, call := e.env i } q).2⟩ e := by
  rw [Engine.run_of_schema params hv, hp]
  unfold Engine.runPlan
  dsimp only
  refine Step.statement_of_eq_ok ?_ (Step.endStatement_of_atRest hr)
  rw [Step.bind_of_eq_ok _ (Step.takeShared_of_alone i hs),
    Step.bind_of_eq_ok _ (Step.lockReads_of_alone i _ hs), Step.get_bind]
  rfl

end Sql

namespace Db

theorem handle_of_eq_some {c : Nat} {w : World} {h : Nat}
    (hh : (w.connections.getD c default).handle = some h) : handle c w = .ok h w := by
  unfold handle
  rw [bind_of_eq_ok _ (connection_apply c w), hh]
  rfl

theorem engine_of_eq_ok {α : Type} {p : Sql.Step α} {w : World} {a : α} {e : Sql.Engine}
    (hp : p w.engine = .ok a e) : engine p w = .ok (.ok a) { w with engine := e } := by
  unfold engine
  rw [show ∀ {γ : Type} (f : World → Db γ), (MonadState.get >>= f) w = f w w from fun _ => rfl]
  rw [show EStateM.run p w.engine = .ok a e from hp]
  rfl

/-- Stepping a query on an open connection at rest to a private database, prepared against the
schema the connection sees, hands out the rows of stepping the query and leaves the world as it
was. -/
theorem steps_of_atRest {c : Nat} {b : Bound} {w : World} {h : Nat} {q : Sql.QueryPlan}
    (hh : (w.connections.getD c default).handle = some h) (hs : w.engine.sharing = .alone)
    (hr : (w.engine.handle h).atRest = true)
    (hv : (w.engine.view h).schemaVersion = b.prepared.schema) (hp : b.prepared.plan = .query q) :
    steps c b w =
      .ok ((Sql.stepQuery { store := w.engine.view h, params := b.params, call := w.engine.env h } q).1,
        (Sql.stepQuery { store := w.engine.view h, params := b.params, call := w.engine.env h } q).2.map
          runError) w := by
  have hstream : stream c b w = .ok ⟨b.prepared.columns,
      (Sql.stepQuery { store := w.engine.view h, params := b.params, call := w.engine.env h } q).1,
      (Sql.stepQuery { store := w.engine.view h, params := b.params, call := w.engine.env h } q).2⟩
      w := by
    unfold stream
    rw [bind_of_eq_ok _ (handle_of_eq_some hh),
      bind_of_eq_ok _ (engine_of_eq_ok (Sql.Engine.run_query_of_atRest b.params hs hr hv hp))]
    rfl
  unfold steps
  rw [bind_of_eq_ok _ (attempt_of_eq_ok hstream)]
  rfl

end Db

/-- Streaming a query agrees with reading it at once. The rows of its deferred query fail as
`toList` does. Once they are prepared, stepping the statement hands out rows and maybe a failed
step; `toList` gives the records of reading those rows one at a time, or the error that stopped
the reading, and a pass asking for `n` items hands out the first `n` items of the same reading:
the records in order, then that error, then nothing more. While stepping the statement leaves
the world as it was, every pass starts again from the first row. The rows of a query that is not
deferred are the records `toList` reads, and each pass over them goes on where the one before it
stopped. -/
theorem rows_stream_as_list (c : Nat) (q : TableQuery) (w : World) :
    (∀ e w₁, Db.rows c q.deferred w = .error e w₁ → Db.toList c q w = .error e w₁) ∧
    (∀ r w₁, Db.rows c q.deferred w = .ok r w₁ → ∃ d, r = .deferred d ∧
      ∃ rows failure w₂, Db.steps c d.bound w₁ = .ok (rows, failure) w₂ ∧
        Db.toList c q w = Db.ofOutcome (readRows d.recordType d.slots failure rows).outcome w₂ ∧
        (∀ n, Db.runPass c d n w₁ = .ok ((readRows d.recordType d.slots failure rows).pass n) w₂) ∧
        (w₂ = w₁ → ∀ ts, r.passes c ts w₁ =
          .ok (ts.map (readRows d.recordType d.slots failure rows).pass) w₁)) ∧
    (q.state.deferred = false → ∀ r w₁, Db.rows c q w = .ok r w₁ → ∃ rs, r = .eager rs ∧
      Db.toList c q w = .ok rs w₁ ∧ ∀ ts, ∃ ps, r.passes c ts w₁ = .ok ps w₁ ∧
        ∀ k, ps[k]? = ts[k]?.map (Reading.pass ⟨rs.drop (ts.take k).sum, none⟩)) := by
  refine ⟨fun e w₁ h => ?_, fun r w₁ h => ?_, fun hq r w₁ h => ?_⟩
  · -- preparing failed: `toList` prepares alike
    rw [Db.rows_deferred_eq] at h
    rw [Db.toList_eq_deferred]
    exact Db.bind_of_eq_error _ (Db.eq_error_of_bind_pure h)
  · rw [Db.rows_deferred_eq] at h
    obtain ⟨d, w', hd, hr⟩ := Db.bind_eq_ok h
    cases hr
    obtain ⟨⟨rows, failure⟩, w₂, hs⟩ := Db.steps_eq_ok c d.bound w₁
    refine ⟨d, rfl, rows, failure, w₂, hs, ?_, fun n => ?_, ?_⟩
    · rw [Db.toList_eq_deferred, Db.bind_of_eq_ok _ hd, Db.bind_of_eq_ok _ hs]
    · rw [Db.runPass_eq, Db.bind_of_eq_ok _ hs]
      rfl
    · rintro rfl ts
      exact Db.deferred_passes_eq c d ts hs
  · rw [Db.rows_eager_eq c hq] at h
    obtain ⟨rs, w', hl, hr⟩ := Db.bind_eq_ok h
    cases hr
    exact ⟨rs, rfl, hl, fun ts => Db.eager_passes_eq c rs ts w₁⟩

/-- Two notes on a fresh in-memory database. -/
def twoNotesWorld : World :=
  Db.finalWorld ((do
    let _ ← Db.createTableWith 0 noteType .none
    let _ ← Db.execute 0 "insert into \"note\" values (1, 'a'), (2, 'b')" []
    pure ()) memoryWorld)

/-- Whether, on `twoNotesWorld`, the deferred query's statement hands out two rows with no failed
step on a connection at rest to a private database, each row reading as a note. -/
def twoNotesRuns : Bool :=
  match Db.table 0 noteType twoNotesWorld with
  | .ok q w =>
    match Db.rows 0 q.deferred w with
    | .ok (.deferred d) w₁ =>
      match (w₁.connections.getD 0 default).handle, d.bound.prepared.plan with
      | some h, .query p =>
        let env : Sql.Env :=
          { store := w₁.engine.view h, params := d.bound.params, call := w₁.engine.env h }
        w₁.engine.sharing == .alone && (w₁.engine.handle h).atRest &&
          (w₁.engine.view h).schemaVersion == d.bound.prepared.schema &&
          (Sql.stepQuery env p).1.length == 2 && (Sql.stepQuery env p).2.isNone &&
          (readRows d.recordType d.slots none (Sql.stepQuery env p).1).stop.isNone
      | _, _ => false
    | _ => false
  | _ => false

set_option maxRecDepth 100000 in
/-- The deferred query of every note on a database holding two: its statement hands out both
rows and leaves the world as it was, `toList` reads both notes, and every pass starts from the
first note. -/
theorem two_notes_pass_from_first :
    ∃ q w d w₁ rows, Db.table 0 noteType twoNotesWorld = .ok q w ∧
      Db.rows 0 q.deferred w = .ok (.deferred d) w₁ ∧
      Db.steps 0 d.bound w₁ = .ok (rows, none) w₁ ∧ rows.length = 2 ∧
      Db.toList 0 q w = .ok (readRows d.recordType d.slots none rows).records w₁ ∧
      ∀ ts, (Db.QueryRows.deferred d).passes 0 ts w₁ =
        .ok (ts.map (readRows d.recordType d.slots none rows).pass) w₁ := by
  have hcheck : twoNotesRuns = true := by
    decide +kernel
  unfold twoNotesRuns at hcheck
  cases ht : Db.table 0 noteType twoNotesWorld with
  | error e w =>
    rw [ht] at hcheck
    cases hcheck
  | ok q w =>
    rw [ht] at hcheck
    dsimp only at hcheck
    cases hr : Db.rows 0 q.deferred w with
    | error e w₁ =>
      rw [hr] at hcheck
      cases hcheck
    | ok r w₁ =>
      rw [hr] at hcheck
      cases r with
      | eager rs => cases hcheck
      | deferred d =>
        dsimp only at hcheck
        obtain ⟨h, hh⟩ : ∃ h, (w₁.connections.getD 0 default).handle = some h := by
          cases hh : (w₁.connections.getD 0 default).handle with
          | none =>
            rw [hh] at hcheck
            cases hcheck
          | some h => exact ⟨h, rfl⟩
        obtain ⟨p, hp⟩ : ∃ p, d.bound.prepared.plan = .query p := by
          cases hp : d.bound.prepared.plan with
          | query p => exact ⟨p, rfl⟩
          | _ =>
            rw [hh, hp] at hcheck
            cases hcheck
        rw [hh, hp] at hcheck
        simp only [Bool.and_eq_true, beq_iff_eq, Option.isNone_iff_eq_none] at hcheck
        obtain ⟨⟨⟨⟨⟨hs, hrest⟩, hv⟩, hlen⟩, hfail⟩, hstop⟩ := hcheck
        have hsteps := Db.steps_of_atRest hh hs hrest hv hp
        rw [hfail, Option.map_none] at hsteps
        obtain ⟨-, hdef, -⟩ := rows_stream_as_list 0 q w
        obtain ⟨d', hd', rows, failure, w₂, hs', htl, -, hrestart⟩ := hdef _ _ hr
        cases hd'
        rw [hsteps] at hs'
        cases hs'
        refine ⟨q, w, d, w₁, _, rfl, hr, hsteps, hlen, ?_, hrestart rfl⟩
        rw [htl, Reading.outcome_of_stop_eq_none hstop]
        rfl

end RecordMap
