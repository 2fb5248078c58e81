import RecordMap.Sql.ForeignKey
import RecordMap.Sql.Trigger

/-!
# Applying writes

Runs compiled `insert`, `update` and `delete` statements row by row, with what foreign keys and
triggers add to each row written.

* Foreign keys count violations (see `RecordMap.Sql.ForeignKey`), and a deleted or rekeyed
  parent row takes its actions on its child rows. An action is a write of its own, with its own
  checks and actions, so actions cascade.
* Triggers (see `RecordMap.Sql.Trigger`) fire before and after each row change. A `before`
  trigger sees the row as it will be written; when it deletes the row, the change is dropped, and
  when it changes other columns of a row being updated, the update keeps those. A trigger whose
  program is running does not fire again. A `raise(ignore)` abandons the row change that fired
  the program, and the programs still to run for it.

Rows changed by actions and by trigger programs, and rows a `replace` resolution deletes, are not
the statement's changes. Inside a program, `changes()` counts the rows its last statement
changed, and the rowid of the last row it inserted is its own until the program ends.

A row a `replace` resolution deletes is settled with its foreign keys once the row that
displaced it has passed its checks: it counts as removed, and its children are acted on.
-/

namespace RecordMap.Sql

/-- A change to rows, or a statement, that foreign key actions and triggers may cascade from. -/
inductive RowJob where
  /-- Deletes a row of a table, giving its values to a `returning` clause. -/
  | delete (table : String) (row : Row) (returning : List Term)
  /-- Rewrites a row of a table: its new rowid and assigned columns evaluated over `cursors`,
  under the conflict resolution of the statement. -/
  | update (table : String) (rules : RowRules) (conflict : Conflict) (assigned : Assigned)
      (cursors : Array Cursor) (old : Row) (returning : List Term)
  /-- Inserts one row of given values. -/
  | insert (p : InsertPlan) (given : Array Datum)
  /-- Takes the actions of the foreign keys that refer to a parent row deleted (`new` none), or
  updated to a new row by assigning some columns and perhaps the rowid. -/
  | act (parent : Table) (old : Row) (new : Option (Row × List Nat × Bool))
  /-- Settles the rows a `replace` resolution deleted. -/
  | settle
  /-- Runs the programs of the triggers a row event fires at a time, with the names an update
  assigns, the conflict resolution of the statement, and the rows `new` and `old`. -/
  | fire (table : String) (ev : RowEvent) (time : TriggerTime) (assigned : List String)
      (conflict : Conflict) (new old : Option Cursor)
  /-- Runs a statement. -/
  | statement (p : WritePlan)
  deriving Inhabited

/-- The fuel of a statement's jobs: more than the deepest nesting of programs allows. -/
def jobDepth : Nat := 100000

/-- How many trigger programs and foreign key actions may run one inside another. -/
def programDepth : Nat := 1000

/-- The failure of programs nested too deeply. -/
def Fault.tooDeepPrograms : Fault := Fault.error "too many levels of trigger recursion"

/-- Counts a row changed: as the statement's, or as an action's. -/
def countChange : Writing Unit :=
  modify fun st =>
    if st.nested == 0 then { st with changes := st.changes + 1 }
    else { st with nestedChanges := st.nestedChanges + 1 }

/-- Runs a program inside the one running: fails when that makes too many. -/
def inProgram (x : Writing Unit) : Writing Unit := do
  if (← get).programs ≥ programDepth then throw Fault.tooDeepPrograms
  modify fun st => { st with programs := st.programs + 1 }
  tryCatch x fun f => do
    modify fun st => { st with programs := st.programs - 1 }
    throw f
  modify fun st => { st with programs := st.programs - 1 }

/-- Runs the changes of a foreign key action, whose rows are not the statement's changes. -/
def asAction (x : Writing Unit) : Writing Unit := inProgram do
  modify fun st => { st with nested := st.nested + 1 }
  x
  modify fun st => { st with nested := st.nested - 1 }

/-- Runs a step, telling whether a `raise(ignore)` abandoned it. -/
def ignoring (x : Writing Unit) : Writing Bool :=
  tryCatch (do x; pure false) fun f => if f.isIgnore then pure true else throw f

/-- What a trigger program changes while it runs, put back when it ends: the frame of its rows,
the triggers running, the rowid of the last row inserted and what `changes()` reports. -/
structure ProgramSaved where
  outer : List LevelRow
  firing : List String
  lastRowid : Option Int
  changes : Nat

/-- The state a trigger program puts back when it ends. -/
def saveProgram : Writing ProgramSaved := do
  let st ← get
  pure ⟨st.outer, st.firing, st.lastRowid, st.call.changes⟩

/-- Puts back what a trigger program changed. -/
def restoreProgram (sv : ProgramSaved) : Writing Unit :=
  modify fun st => { st with outer := sv.outer, firing := sv.firing, lastRowid := sv.lastRowid,
                             call := { st.call with changes := sv.changes } }

/-- Runs a statement of a trigger program as a statement of its own: the rows it changes are
its changes, which `changes()` then reports, and count toward the total only. -/
def asProgramStep (x : Writing Unit) : Writing Unit := do
  let before ← get
  modify fun st => { st with changes := 0, nested := 0 }
  let finish : Writing Unit := modify fun st =>
    { st with changes := before.changes, nested := before.nested,
              nestedChanges := st.nestedChanges + st.changes,
              call := { st.call with changes := st.changes } }
  tryCatch x fun f => do
    finish
    throw f
  finish

/-- Whether two values of a key column are the same, as `is` compares them under the column's
affinity and collation. -/
def sameKeyValue (aff : Affinity) (coll : Collation) (a b : Datum) : Bool :=
  if a.isNull || b.isNull then a.isNull && b.isNull
  else compareUnder (Affinity.comparison aff aff) coll a b == some .eq

/-- The assignments an action makes to a child row: each child column of the key a value. -/
def actionAssignments (child : Table) (cols : List Nat) (vals : List Datum) : Assigned :=
  let pairs := cols.zip vals
  { columns := (pairs.filterMap fun (c, v) =>
      if child.rowidAlias == some c then none else some (c, Term.value v)).mergeSort
        (fun a b => a.1 ≤ b.1),
    rowid := pairs.findSome? fun (c, v) => if child.rowidAlias == some c then some (Term.value v) else none }

/-- The new values an action gives the child columns of a key: the parent's new key for a
cascading update, the columns' defaults for `set default`, else nulls. -/
def actionValues (action : KeyAction) (child : Table) (rules : RowRules) (cols : List Nat)
    (newKey : List Datum) : Writing (List Datum) :=
  match action with
  | .cascade => pure newKey
  | .setDefault =>
    cols.mapM fun c =>
      match rules.defaults.getD c none with
      | some d => if (child.column c).generated.isSome then pure .null else evalOn #[] d
      | none => pure .null
  | _ => pure (cols.map fun _ => .null)

/-- The values of a row as its table would store them, as a `before` trigger sees them. -/
def Table.storedValues (t : Table) (values : Array Datum) : Array Datum :=
  values.mapIdx fun k v => (t.column k).store v

/-- Whether an insert writes a single row of values that no conflict resolution may replace,
which its foreign keys refuse at once rather than count. -/
def InsertPlan.singleRow (p : InsertPlan) (t : Table) : Bool :=
  let oneRow := match p.source with
    | .single _ | .defaults => true
    | _ => false
  let replaces :=
    p.conflict == .replace ||
      (p.conflict == .unset &&
        (t.keyConflict == .replace || t.indexes.any fun ix => ix.unique && ix.conflict == .replace))
  oneRow && !replaces && p.upserts.all (·.update.isNone)

/-- The order in which the terms of a single row of values are evaluated: those of the columns
in column order, then the rowid's. -/
def singleOrder (t : Table) (p : InsertPlan) : List Nat :=
  let cols := (List.range t.columns.size).filterMap fun i =>
    if t.rowidAlias == some i || (t.column i).generated.isSome then none else p.places.getD i none
  (cols ++ p.rowidPlace.toList).eraseDups

/-- The rows of a table a condition holds for, in table order. -/
def matchingRows (t : Table) (filter : Option Term) : Writing (List Row) :=
  t.rows.filterM fun r =>
    match filter with
    | some f => do
      let v ← evalOn #[t.cursor r] f
      pure v.passes
    | none => pure true

/-- Whether a row of a table has the identity an `update … from` query gives: its rowid, or the
values of its primary key. -/
def Table.hasIdentity (t : Table) (r : Row) (ident : List Datum) : Bool :=
  if t.withoutRowid then
    (t.primaryKey.zip ident).all fun ((c, _), v) => compareDatum (t.column c).collation (t.value r c) v == .eq
  else
    match ident with
    | [v] => compareDatum .binary v (.integer r.rowid) == .eq
    | _ => false

/-- Runs a job with what foreign keys and triggers add, `fuel` bounding how deep jobs go. -/
def runJob : Nat → RowJob → Writing Unit
  | 0, _ => throw Fault.tooDeepPrograms
  | n + 1, .delete name r returning => do
    let t ← currentTable name
    match t.row? r.rowid with
    | none => pure ()
    | some r =>
      if !((← get).store.triggersOf t.name .delete .before []).isEmpty then
        if ← ignoring (runJob n (.fire t.name .delete .before [] .unset none (some (t.cursor r)))) then
          return
      let t ← currentTable name
      match t.row? r.rowid with
      | none => pure ()
      | some r =>
        let st ← get
        let keys := st.foreignKeys
        if keys then
          checkParents t r (-1) false t.foreignKeys.reverse
          scanChildren t r 1 (st.store.referencing t.name)
        let t ← currentTable name
        storeTable (t.removeRowid r.rowid)
        countChange
        returnRow returning (t.cursor r)
        if keys then runJob n (.act t r none)
        let _ ← ignoring (runJob n (.fire t.name .delete .after [] .unset none (some (t.cursor r))))
  | n + 1, .update name rules conflict assigned cursors old returning => do
    let t ← currentTable name
    let rowid ← match assigned.rowid with
      | some term => do
        let v ← evalOn cursors term
        liftFault (mustBeInteger v)
      | none => pure old.rowid
    let mut values := old.values
    for (k, term) in assigned.columns do
      let v ← evalOn cursors term
      values := values.set! k v
    let names := assigned.names t
    let mut current := old
    if !((← get).store.triggersOf t.name .update .before names).isEmpty then
      let seen ← computeGenerated t rules rowid values
      let newRow := rowCursor t rowid (t.storedValues seen)
      if ← ignoring (runJob n (.fire t.name .update .before names conflict (some newRow) (some (t.cursor old)))) then
        return
      match (← currentTable name).row? old.rowid with
      | none => return
      | some cur =>
        -- the columns the update does not assign keep what the triggers left in them
        current := cur
        values := (Array.range values.size).map fun k =>
          if assigned.columns.any (·.1 == k) then values.getD k .null else cur.values.getD k .null
    let t ← currentTable name
    let full ← computeGenerated t rules rowid values
    let changed := assigned.columns.map (·.1)
    let rowidChanged := assigned.rowid.isSome
    match ← admitRow name rules conflict [] (some changed) rowidChanged (some current.rowid) rowid full with
    | some (vs, .write) =>
      runJob n .settle
      let st ← get
      let t ← currentTable name
      let keys := st.foreignKeys && (KeyWrite.update changed rowidChanged).needsKeys st.store t
      let own := t.foreignKeys.reverse.filter fun fk =>
        sameName t.name fk.reference.table || fk.childModified t changed rowidChanged
      let refs := (st.store.referencing t.name).filter fun (_, fk) =>
        fk.parentModified t changed rowidChanged
      let new : Row := ⟨rowid, vs⟩
      if keys then
        checkParents t current (-1) false own
        scanChildren t current 1 refs
      let t ← currentTable name
      let without := t.removeRowid current.rowid
      storeTable without
      if keys then
        checkParents without new 1 false own
        scanChildren without new (-1) refs
      let t ← currentTable name
      storeTable (t.addRow new)
      countChange
      noteRowid t rowid
      let t ← currentTable name
      returnRow returning (rowCursor t rowid vs)
      if keys then runJob n (.act t current (some (new, changed, rowidChanged)))
      let _ ← ignoring (runJob n
        (.fire t.name .update .after names conflict (some (rowCursor t rowid vs)) (some (t.cursor old))))
    | _ => runJob n .settle
  | n + 1, .insert p given => do
    let t ← currentTable p.table
    let single := p.singleRow t
    let mut values : Array Datum := #[]
    for i in [0:t.columns.size] do
      let c := t.column i
      if t.rowidAlias == some i || c.generated.isSome then values := values.push .null
      else
        match p.places.getD i none with
        | some j => values := values.push (given.getD j .null)
        | none =>
          match p.rules.defaults.getD i none with
          | some d => values := values.push (← evalOn #[] d)
          | none => values := values.push .null
    let givenRowid : Option Datum := if t.withoutRowid then none else p.rowidPlace.map (given.getD · .null)
    if !((← get).store.triggersOf t.name .insert .before []).isEmpty then
      -- a `before` trigger sees the rowid given, or -1 for one not chosen yet
      let early ← match givenRowid with
        | some d => if d.isNull then pure (-1) else liftFault (mustBeInteger d)
        | none => pure (-1)
      let seen ← computeGenerated t p.rules early values
      let newRow := rowCursor t early (t.storedValues seen)
      if ← ignoring (runJob n (.fire t.name .insert .before [] p.conflict (some newRow) none)) then
        return
    let t ← currentTable p.table
    let rowid ← if t.withoutRowid then pure ((t.topRowid?.getD 0) + 1)
      else
        match givenRowid with
        | some d => if d.isNull then newRowid t else liftFault (mustBeInteger d)
        | none => newRowid t
    if !t.withoutRowid then noteRowid t rowid
    let full ← computeGenerated t p.rules rowid values
    let ups := match p.upserts with
      | [u] => if u.update.isNone then [] else p.upserts
      | us => us
    let conflict := match p.upserts with
      | [⟨.any, none⟩] => Conflict.ignore
      | _ => p.conflict
    match ← admitRow p.table p.rules conflict ups none p.rowidPlace.isSome none rowid full with
    | none => runJob n .settle
    | some (_, .skip) => runJob n .settle
    | some (vs, .write) =>
      runJob n .settle
      let st ← get
      let t ← currentTable p.table
      let new : Row := ⟨rowid, vs⟩
      if st.foreignKeys then
        checkParents t new 1 single t.foreignKeys.reverse
        let refs := (st.store.referencing t.name).filter fun (_, fk) => !single || fk.reference.deferred
        scanChildren t new (-1) refs
      let t ← currentTable p.table
      storeTable (t.addRow new)
      countChange
      modify fun st => { st with lastRowid := if t.withoutRowid then st.lastRowid else some rowid }
      let t ← currentTable p.table
      returnRow p.returning (rowCursor t rowid vs)
      let _ ← ignoring (runJob n (.fire t.name .insert .after [] p.conflict (some (rowCursor t rowid vs)) none))
    | some (vs, .upsert u existing) =>
      runJob n .settle
      match u.update with
      | none => pure ()
      | some (assigned, cond) =>
        let t ← currentTable p.table
        let cursors := #[t.cursor existing, rowCursor t rowid vs]
        let go ← match cond with
          | some c => do
            let v ← evalOn cursors c
            pure v.passes
          | none => pure true
        if go then
          runJob n (.update p.table p.rules .abort assigned cursors existing p.returning)
  | n + 1, .act parent old new => do
    let refs := (← get).store.referencing parent.name
    for (c, fk) in refs do
      let action := if new.isSome then fk.reference.onUpdate else fk.reference.onDelete
      let modified := match new with
        | some (_, changed, rowidChanged) => fk.parentModified parent changed rowidChanged
        | none => true
      match action, locateParentKey parent fk with
      | .none, _ | _, none => pure ()
      | _, some pk =>
        let oldKey := pk.values parent old
        let newKey := new.map fun (r, _, _) => pk.values parent r
        let keyChanged := match newKey with
          | some nk => !(oldKey.zip nk).all fun ((a, aff, coll), (b, _, _)) => sameKeyValue aff coll a b
          | none => true
        if modified && keyChanged then
          let child ← currentTable c.name
          let rows := child.rows.filter (pk.refersTo fk child oldKey)
          match action, new with
          | .restrict, _ => inProgram (do if !rows.isEmpty then refuse .abort Fault.restricted)
          | .cascade, none => asAction (rows.forM fun r => runJob n (.delete child.name r []))
          | _, _ =>
            let rules ← liftFault (compileRules (← get).store child)
            let cols := pk.childColumns fk
            let vals ← actionValues action child rules cols ((newKey.getD []).map (·.1))
            let assigned := actionAssignments child cols vals
            asAction (rows.forM fun r => do
              let t ← currentTable child.name
              match t.row? r.rowid with
              | some cur => runJob n (.update child.name rules .abort assigned #[t.cursor cur] cur [])
              | none => pure ())
  | n + 1, .settle => do
    let st ← get
    set { st with replaced := #[] }
    if st.foreignKeys then
      for (name, r) in st.replaced do
        let t ← currentTable name
        checkParents t r (-1) false t.foreignKeys.reverse
        scanChildren t r 1 ((← get).store.referencing t.name)
        runJob n (.act t r none)
  | n + 1, .fire table ev time assigned conflict new old => do
    let s := (← get).store
    match s.table? table with
    | none => pure ()
    | some t =>
      for tr in s.triggersOf table ev time assigned do
        if !((← get).firing.any (sameName · tr.name)) then
          let prog ← liftFault (compileProgram (← get).store t tr ev conflict)
          let frame := triggerFrame new old
          let saved ← saveProgram
          modify fun st => { st with outer := [frame], firing := tr.name :: st.firing }
          let body : Writing Unit := do
            let go ← match prog.when with
              | some w => do
                let st ← get
                let v ← liftFault (Term.eval writeFuel st.env [frame] w)
                pure v.passes
              | none => pure true
            if go then
              for step in prog.steps do
                match step with
                | .write p => asProgramStep (runJob n (.statement p))
                | .query plan =>
                  let st ← get
                  let _ ← liftFault (runQuery writeFuel st.env st.outer plan none)
          tryCatch (inProgram body) fun f => do
            restoreProgram saved
            throw f
          restoreProgram saved
  | n + 1, .statement (.insert p) => do
    let t ← currentTable p.table
    let start := (← get).store.sequence t.name
    if t.autoincrement then modify fun st => { st with sequence := some start }
    match p.source with
    | .defaults => runJob n (.insert p #[])
    | .single terms =>
      let mut given : Array Datum := Array.replicate terms.length .null
      for j in singleOrder t p do
        let v ← evalOn #[] (terms.getD j default)
        given := given.set! j v
      runJob n (.insert p given)
    | .rows rows =>
      for r in rows do
        let given ← r.mapM (evalOn #[])
        runJob n (.insert p given.toArray)
    | .query plan =>
      let st ← get
      let rows ← liftFault (runQuery writeFuel st.env st.outer plan none)
      for r in rows do
        runJob n (.insert p r.toArray)
    if t.autoincrement then
      let st ← get
      match st.sequence with
      | some v => if v > start then set { st with store := st.store.recordSequence t.name v }
      | none => pure ()
  | n + 1, .statement (.update p) => do
    let t ← currentTable p.table
    match p.source with
    | some (plan, width) =>
      let st ← get
      let found ← liftFault (runQuery writeFuel st.env st.outer plan none)
      let found := found.reverse
      for r in t.rows do
        match found.find? fun q => t.hasIdentity r (q.take width) with
        | some q =>
          let t ← currentTable p.table
          match t.row? r.rowid with
          | some cur =>
            runJob n
              (.update p.table p.rules p.conflict p.assigned #[t.cursor cur, ⟨q.toArray, none⟩] cur p.returning)
          | none => pure ()
        | none => pure ()
    | none =>
      let rows ← matchingRows t p.filter
      for r in rows do
        let t ← currentTable p.table
        match t.row? r.rowid with
        | some cur =>
          runJob n (.update p.table p.rules p.conflict p.assigned #[t.cursor cur] cur p.returning)
        | none => pure ()
  | n + 1, .statement (.delete p) => do
    let t ← currentTable p.table
    let rows ← matchingRows t p.filter
    for r in rows do
      runJob n (.delete p.table r p.returning)

/-- Empties a table about to be dropped while foreign keys are enforced, when other tables refer
to it (or it has deferred keys whose violations are counted): each row is deleted with what its
keys add, and violations left counted fail the drop. -/
def emptyForDrop (name : String) : Writing Unit := do
  let st ← get
  let t ← currentTable name
  let needed := !(st.store.referencing t.name).isEmpty ||
    (t.foreignKeys.any (·.reference.deferred) && st.fkDeferred != 0)
  if needed then
    for r in t.rows do
      runJob jobDepth (.delete t.name r [])
    if (← get).fkPending > 0 then refuse .abort Fault.foreignKey

/-- Runs a write statement. -/
def WritePlan.run (p : WritePlan) : Writing Unit :=
  runJob jobDepth (.statement p)

end RecordMap.Sql
