import RecordMap.Sql.Write

/-!
# Trigger programs

A trigger fires for each row an `insert`, `update` or `delete` changes on its table, `before`
or `after` the change, when its `when` condition holds. An `update of` trigger fires only for an
`update` that assigns one of its columns. The triggers of one row change fire newest first.

Its program reads the row through two sources that only a qualified name finds: `new`, the row
written (for an insert or an update), and `old`, the row replaced (for an update or a delete).
Each statement of the program is compiled with those sources in a scope outside its own, so a
name of its own sources comes first; `raise` may stand only in a trigger program.

A program is compiled when it is about to run, against the schema of that moment; preparing a
statement compiles every program it could run, so that a program in error fails the statement
before it changes anything. The conflict resolution of the statement that fires a program, when
it has one, replaces those of the program's statements.
-/

namespace RecordMap.Sql

/-- What a row change is, for the triggers it fires. -/
inductive RowEvent where
  | insert
  | update
  | delete
  deriving Repr, DecidableEq, Inhabited

/-- Whether a trigger fires for a row event at a time on a table: an `update of` trigger only when
the statement assigns one of its columns, by name. -/
def CreateTrigger.firesOn (tr : CreateTrigger) (table : String) (ev : RowEvent) (time : TriggerTime)
    (assigned : List String) : Bool :=
  sameName tr.table table && tr.time == time &&
    match tr.event, ev with
    | .insert, .insert => true
    | .delete, .delete => true
    | .update cols, .update => cols.isEmpty || cols.any fun c => assigned.any (sameName · c)
    | _, _ => false

/-- The triggers a row event fires at a time on a table, newest first. -/
def Store.triggersOf (s : Store) (table : String) (ev : RowEvent) (time : TriggerTime)
    (assigned : List String) : List CreateTrigger :=
  s.triggers.reverse.filter (·.firesOn table ev time assigned)

/-- The names an update assigns, as `update of` triggers match them: the assigned columns, and
the column that is the rowid (or the name `rowid`) when the rowid is assigned. -/
def Assigned.names (a : Assigned) (t : Table) : List String :=
  let cols := a.columns.map fun (k, _) => (t.column k).name
  match a.rowid with
  | some _ =>
    match t.rowidAlias with
    | some k => (t.column k).name :: cols
    | none => "rowid" :: cols
  | none => cols

/-- A compiled statement of a trigger program. -/
inductive ProgramStep where
  | write (p : WritePlan)
  | query (plan : QueryPlan)
  deriving Inhabited

/-- A compiled trigger program: its condition, read in the trigger's own frame, and its
statements. -/
structure TriggerProgram where
  name : String
  when : Option Term
  steps : List ProgramStep
  deriving Inhabited

/-- The scope of a trigger program on a table: the sources `new` and `old`, in that order; the
one an event has no row for answers to no name. -/
def triggerScope (t : Table) (ev : RowEvent) : Scope :=
  let source (name : String) (has : Bool) : ScopeSource :=
    { tableScope t none with names := if has then [name] else [], qualifiedOnly := true }
  ⟨[source "new" (ev != .delete), source "old" (ev != .insert)], [], .refused, false⟩

/-- The frame a trigger program reads its rows from, matching `triggerScope`. -/
def triggerFrame (new old : Option Cursor) : LevelRow :=
  { cursors := #[new.getD .null, old.getD .null] }

/-- The conflict resolution of a statement of a trigger program: the firing statement's, when it
has one, else the statement's own. -/
def stepConflict (firing own : Conflict) : Conflict :=
  if firing != .unset then firing else own

/-- The table a statement of a trigger program writes, which must exist in the trigger's
schema. -/
def checkStepTarget (s : Store) (table : String) : Except Fault Unit :=
  if (s.table? table).isNone && (s.view? table).isNone && !isSchemaName table then
    throw (Fault.error s!"no such table: main.{table}")
  else pure ()

/-- Compiles a statement of a trigger program, in the program's scope. -/
def compileStep (s : Store) (scope : Scope) (firing : Conflict) : TriggerStep → Except Fault ProgramStep
  | .insert c table columns source upserts => do
    checkStepTarget s table
    let (p, _) ← compileInsert s [scope] none (stepConflict firing c) table none columns source
      upserts []
    pure (.write (.insert p))
  | .update c table sets filter => do
    checkStepTarget s table
    let (p, _) ← compileUpdate s [scope] none (stepConflict firing c) table default none .none sets []
      filter []
    pure (.write (.update p))
  | .delete table filter => do
    checkStepTarget s table
    let (p, _) ← compileDelete s [scope] none table none .none filter []
    pure (.write (.delete p))
  | .select q => do
    let out ← finishStep (query compileFuel { stepCtx s none [] [scope] with scopes := [scope] } q)
    pure (.query out.plan)

/-- Compiles the program of a trigger on a table for an event. -/
def compileProgram (s : Store) (t : Table) (tr : CreateTrigger) (ev : RowEvent) (firing : Conflict) :
    Except Fault TriggerProgram := do
  let scope := triggerScope t ev
  let when ← match tr.when with
    | some w => some <$> finishStep (scalarTerm { stepCtx s none [] [] with scopes := [scope], trigger := true } w)
    | none => pure none
  let steps ← tr.steps.mapM (compileStep s scope firing)
  pure ⟨tr.name, when, steps⟩

/-- The row events a statement of a trigger program makes: its table, its event and the names it
assigns. -/
def TriggerStep.event : TriggerStep → Option (String × RowEvent × List String)
  | .insert _ table _ _ _ => some (table, .insert, [])
  | .update _ table sets _ => some (table, .update, sets.flatMap fun a => a.columns.map (·.1))
  | .delete table _ => some (table, .delete, [])
  | .select _ => none

/-- Compiles every program a row event could run, and those their statements could run in turn,
each trigger once: `before` triggers first, then `after`, newest first. Fails with the first
program in error. Returns the triggers compiled so far. -/
def checkPrograms : Nat → Store → List String → String → RowEvent → List String → Except Fault (List String)
  | 0, _, seen, _, _, _ => pure seen
  | n + 1, s, seen, table, ev, assigned => do
    match s.table? table with
    | none => pure seen
    | some t =>
      let fired := s.triggersOf table ev .before assigned ++ s.triggersOf table ev .after assigned
      fired.foldlM (fun seen tr => do
        if seen.any (sameName · tr.name) then return seen
        let _ ← compileProgram s t tr ev .unset
        tr.steps.foldlM (fun seen step =>
          match step.event with
          | some (table, ev, assigned) => checkPrograms n s seen table ev assigned
          | none => pure seen) (tr.name :: seen)) seen

/-- Compiles every program a write statement could run, failing as preparing it does. -/
def checkTriggers (s : Store) (table : String) (ev : RowEvent) (assigned : List String) :
    Except Fault Unit := do
  let _ ← checkPrograms s.triggers.length s [] table ev assigned
  pure ()

end RecordMap.Sql
