import RecordMap.Database.Connection
import RecordMap.Database.Row
import RecordMap.Query.Host

/-!
# Commands

A `Command` is statement text with the values bound to it. Preparing it on a connection checks,
in order: that the connection is open, that the engine takes the text, and then each binding in
turn: a named one must name a parameter of the statement (its number is the parameter's), a
positional one takes the next number counting only positional bindings from 1, the value must
be a single value the engine can store, and the number must be one of the statement's
parameters. Parameters left unbound are null.

A prepared command then runs as a statement for its change count, as a query read into
records of a type (result columns matched to the type's storage names, unmatched ones
ignored), as a query for its first value, or as a query for untyped rows. A deferred query
keeps the prepared statement and runs it again on every pass.
-/

namespace RecordMap

open RecordMap.Sql (Datum Prepared Output)
open RecordMap.Text

/-- A value bound to a command, by name or by position, and the parameter number it was bound
to when the command was last prepared. -/
structure Binding where
  name : Option String
  value : Host
  index : Nat := 0
  deriving Inhabited

/-- Structural text of a binding. -/
def Binding.debugText (b : Binding) : String :=
  let name := match b.name with
    | some n => "Some(" ++ debugQuote n ++ ")"
    | none => "None"
  "Binding \x7b name: " ++ name ++ ", value: " ++ b.value.debugText ++ ", index: " ++
    toString b.index ++ " \x7d"

/-- Statement text and its bindings. -/
structure Command where
  text : String
  bindings : List Binding := []
  deriving Inhabited

namespace Command

/-- Binds a value to the next position. -/
def bindHost (cmd : Command) (h : Host) : Command :=
  { cmd with bindings := cmd.bindings ++ [⟨none, h, 0⟩] }

/-- Binds a single value to the next position. -/
def bind (cmd : Command) (v : Value) : Command := cmd.bindHost (.scalar v)

/-- Binds a value to a named parameter. -/
def bindNamed (cmd : Command) (name : String) (v : Value) : Command :=
  { cmd with bindings := cmd.bindings ++ [⟨some name, .scalar v, 0⟩] }

/-- Binds values to the next positions, in order. -/
def bindAll (cmd : Command) (vs : List Value) : Command := vs.foldl bind cmd

/-- The text, then a line for each binding with its number and value. -/
def display (cmd : Command) : String :=
  cmd.text ++ String.join (cmd.bindings.map fun b =>
    "\n  " ++ toString b.index ++ " = " ++ b.value.debugText)

/-- Structural text of a command. -/
def debugText (cmd : Command) : String :=
  "Command \x7b text: " ++ debugQuote cmd.text ++ ", bindings: " ++
    listText (cmd.bindings.map Binding.debugText) ++ " \x7d"

end Command

/-- A command prepared on a connection: the engine's statement, the parameter values, and the
command with the numbers its bindings went to. -/
structure Bound where
  prepared : Prepared
  params : Array Datum
  command : Command
  deriving Inhabited

namespace Db

/-- The parameter number of a binding: a name's own number, or the next position. -/
def bindingIndex (p : Prepared) (name : Option String) (next : Nat) : Db Nat :=
  match name with
  | some n =>
    match p.params.findIdx? (· == some n) with
    | some k => pure (k + 1)
    | none => throw (.execution 25 ("no parameter named " ++ n))
  | none => pure next

/-- What the engine stores for a bound value; only single values can be bound. -/
def bindingDatum (ticks : Bool) : Host → Db Datum
  | .scalar v => ofTyped (bindValue ticks v)
  | other => throw (.unsupportedType (.cannotBind other.kind))

/-- Prepares a command on a connection and binds its values. -/
def prepare (c : Nat) (cmd : Command) : Db Bound := do
  let h ← handle c
  let k ← connection c
  let p ← match (← get).engine.prepare h cmd.text with
    | .ok p => pure p
    | .error f => throw (prepareError cmd.text f)
  let count := p.params.length
  let mut next := 1
  let mut values : Array Datum := Array.replicate count .null
  let mut bound : List Binding := []
  for b in cmd.bindings do
    let index ← bindingIndex p b.name next
    if b.name.isNone then next := next + 1
    let d ← bindingDatum k.ticks b.value
    if index == 0 || index > count then throw (.execution 25 "column index out of range")
    values := values.setIfInBounds (index - 1) d
    bound := bound ++ [{ b with index }]
  pure ⟨p, values, { cmd with bindings := bound }⟩

/-- Steps a prepared command to its end: its output, whose rows may end in a failed step. -/
def stream (c : Nat) (b : Bound) : Db Output := do
  let h ← handle c
  match ← engine (Sql.Engine.run h b.prepared b.params) with
  | .ok out => pure out
  | .error f => throw (runError f)

/-- Runs a prepared command; a step that fails after some rows fails the run. -/
def run (c : Nat) (b : Bound) : Db Output := do
  let out ← stream c b
  match out.failure with
  | some f => throw (runError f)
  | none => pure out

/-- The rows a prepared command hands out as it is stepped, and the error of the step after them
when that step fails; a command that cannot start fails at its first step. -/
def steps (c : Nat) (b : Bound) : Db (List (List Datum) × Option Error) := do
  match ← attempt (stream c b) with
  | .ok out => pure (out.rows, out.failure.map runError)
  | .error e => pure ([], some e)

/-- Runs a command as a statement: the number of rows it changed. Only the first step is taken,
so a failure after a first row does not matter. -/
def executeNonQuery (c : Nat) (cmd : Command) : Db Nat := do
  let b ← prepare c cmd
  let (rows, failure) ← steps c b
  match rows, failure with
  | [], some e => throw e
  | _, _ => changes c

/-- Runs statement text with positional values: the number of rows it changed. -/
def execute (c : Nat) (sql : String) (params : List Value) : Db Nat :=
  executeNonQuery c ((Command.mk sql []).bindAll params)

/-- Runs a command as a query for its first value, read as a field of the given type; a query
with no row gives the type's default. Only the first step is taken, so a later one that would
fail does not matter. -/
def executeScalar (c : Nat) (cmd : Command) (field : FieldType) : Db Value := do
  let b ← prepare c cmd
  let (rows, failure) ← steps c b
  let v ← match rows, failure with
    | row :: _, _ => ofTyped (readColumn (row.headD .null) field.dataType)
    | [], some e => throw e
    | [], none => pure .null
  ofTyped (field.accept v)

/-- The mapped column each result column is read into: the one of its storage name, exactly,
else up to ASCII case. -/
def columnSlots (m : Mapping) (names : List String) : List (Option Column) :=
  names.map fun n => (m.findColumnIndex n).bind (m.columns[·]?)

/-- A result row read into a record: fields of unmatched columns keep their defaults. -/
def materialize (rt : RecordType) (slots : List (Option Column)) (row : List Datum) :
    Except TypeFault (List Value) :=
  let fill (record : List Value) : Option Column × Datum → Except TypeFault (List Value)
    | (some col, d) => do
      let v ← readColumn d col.dataType
      let stored ← col.field.accept v
      pure (record.set col.position stored)
    | (none, _) => pure record
  (slots.zip row).foldlM fill rt.blank

/-- Runs a command as a query read into records of a type, row by row: a row that cannot be
read fails it before any later step does. -/
def executeQuery (c : Nat) (rt : RecordType) (cmd : Command) : Db (List (List Value)) := do
  let m ← mapping c rt
  let b ← prepare c cmd
  let slots := columnSlots m b.prepared.columns
  let (rows, failure) ← steps c b
  let records ← rows.mapM fun row => ofTyped (materialize rt slots row)
  match failure with
  | some e => throw e
  | none => pure records

/-- Runs a command as a query for untyped rows. -/
def executeRows (c : Nat) (cmd : Command) : Db (List Row) := do
  let b ← prepare c cmd
  let out ← run c b
  pure (out.rows.map fun row => ⟨b.prepared.columns, row.map readDynamic⟩)

/-- Runs statement text with positional values for records of a type. -/
def query (c : Nat) (rt : RecordType) (sql : String) (params : List Value) :
    Db (List (List Value)) :=
  executeQuery c rt ((Command.mk sql []).bindAll params)

/-- Runs statement text with positional values for untyped rows. -/
def queryRows (c : Nat) (sql : String) (params : List Value) : Db (List Row) :=
  executeRows c ((Command.mk sql []).bindAll params)

end Db

/-! ## Deferred queries -/

/-- A prepared query that reads records of a type each time it is run. -/
structure Deferred where
  table : String
  recordType : RecordType
  slots : List (Option Column)
  bound : Bound
  deriving Inhabited

/-- One pass over a deferred query: the items handed out, and whether the pass reached its
end, which an error also is. -/
structure Pass where
  items : List (Outcome (List Value))
  finished : Bool

/-- The items of a run's rows, stopping after the first error and after `take` items; `failure`
is the error of the step after the last row, when that step failed. -/
def passItems (rt : RecordType) (slots : List (Option Column)) (failure : Option Error) :
    Nat → List (List Datum) → List (Outcome (List Value)) × Bool
  | 0, _ => ([], false)
  | _ + 1, [] => ((failure.map .error).toList, true)
  | n + 1, row :: rest =>
    match Db.materialize rt slots row with
    | .ok r =>
      let (more, finished) := passItems rt slots failure n rest
      (.ok r :: more, finished)
    | .error f => ([.error (.unsupportedType f)], true)

namespace Db

/-- Prepares a command as a deferred query for records of a type. -/
def executeDeferred (c : Nat) (rt : RecordType) (cmd : Command) : Db Deferred := do
  let m ← mapping c rt
  let b ← prepare c cmd
  pure ⟨m.tableName, rt, columnSlots m b.prepared.columns, b⟩

/-- Runs a deferred query once, handing out at most `take` items. -/
def runPass (c : Nat) (q : Deferred) (take : Nat) : Db Pass := do
  let (rows, failure) ← steps c q.bound
  let (items, finished) := passItems q.recordType q.slots failure take rows
  pure ⟨items, finished⟩

end Db

/-- A bound value as the engine writes it into statement text: `NULL`, a number, a quoted
string, or a blob literal. -/
def Sql.Datum.literalText : Datum → String
  | .null => "NULL"
  | .integer i => toString i
  | .real x => Sql.realText x
  | .text s => "'" ++ String.join ((Sql.textOf s).toList.map fun c => if c == '\'' then "''" else c.toString) ++ "'"
  | .blob [] => "zeroblob(0)"
  | .blob bs => "x'" ++ Value.hexText bs ++ "'"

/-- The statement text with each parameter replaced by its bound value. -/
def Bound.expandedSql (b : Bound) : String :=
  let chars := b.prepared.text.toList.toArray
  let cut (i j : Nat) : String := String.ofList (chars.extract i j).toList
  let params := b.prepared.params
  let valueAt (n : Nat) : String := (b.params.getD (n - 1) .null).literalText
  let step (acc : String × Nat × Nat) (t : Sql.Token) : String × Nat × Nat :=
    let (out, last, next) := acc
    match t.kind with
    | .param text =>
      let n := match text.toList with
        | ['?'] => next
        | '?' :: digits => digits.foldl (fun a d => 10 * a + (d.toNat - 48)) 0
        | _ => ((params.findIdx? (· == some text)).map (· + 1)).getD next
      (out ++ cut last t.index ++ valueAt n, t.stop, max (n + 1) next)
    | _ => acc
  let (out, last, _) := (Sql.tokenize b.prepared.text).foldl step ("", 0, 1)
  out ++ cut last chars.size

/-- Structural text of a deferred query. -/
def Deferred.debugText (q : Deferred) : String :=
  "DeferredQuery \x7b table: " ++ debugQuote q.table ++ ", sql: Some(" ++
    debugQuote q.bound.expandedSql ++ ") \x7d"

end RecordMap
