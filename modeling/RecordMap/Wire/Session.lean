import RecordMap.Wire.Steps

/-!
# Sessions

A session opens a connection as its options say (and a second one when asked), runs its steps
in order, and answers each with its result and the transaction depth of the connection it ran
on. A failing step does not stop the session.

An `in_tx` step runs nested steps inside `runInTransaction`: the first step that fails ends the
body with that failure, and a `panic` step ends it at once, the savepoint being rolled back to
in both cases. The step itself answers with the nested answers and how the body ended.

Randomness is written so that answers can be compared: generated identifiers become
`<uuid#N>` in the order they were made, savepoint names made by `savepoint` steps become
`<sp#i>`, any other savepoint-shaped name the request does not mention becomes `<sp>`, and the
path of the scratch database becomes `<file>`.
-/

namespace RecordMap.Wire

open RecordMap.Numeral

/-- The shared in-memory database of `"shared"` sessions. -/
def sharedPath : String := "file:turorm_oracle?mode=memory&cache=shared"

/-- The scratch database file of `"file"` sessions. -/
def scratchPath : String := "/tmp/recordmap-scratch.db"

/-- How a body of nested steps ended early: a step failed, or one panicked. -/
inductive Interrupt where
  | failed (e : Error)
  | panicked
  deriving Inhabited

/-- A failure as the error a body of nested steps ends with; a malformed step is a failed
statement with code -1. -/
def Failure.asError : Failure → Error
  | .library e => e
  | .malformed m => .execution (-1) m
  | .panic => .execution (-1) "requested panic"

/-- A step's answer: its result, or its error, with the depth of its connection. -/
def stepAnswer (result : Except Failure Json) (depth : Nat) : Json :=
  match result with
  | .ok j => .obj [("ok", j), ("depth", .ofNat depth)]
  | .error f =>
    match encodeFailure f with
    | .obj fields => .obj (fields ++ [("depth", .ofNat depth)])
    | other => other

/-- The answer of an `in_tx` step: the nested answers and how the body ended. -/
def inTransactionJson (inner : List Json) (out : Except Interrupt Nat) : Json :=
  let result := match out with
    | .ok n => Json.obj [("ok", .ofNat n)]
    | .error (.failed e) => encodeError e
    | .error .panicked => encodeFailure .panic
  .obj [("inner", .arr inner), ("result", result)]

/-- How a step ended: with a result, or in a panic. -/
inductive Ending where
  | result (r : Except Failure Json)
  | panicked
  deriving Inhabited

/-- The connection a step runs on: the first, or the second with `"on": 2`. -/
def connectionOf (j : Json) (second : Bool) : Decoded Nat :=
  match optField j "on" with
  | some v => do
    match ← asNat v with
    | 1 => pure 0
    | 2 => if second then pure 1 else malformed "no second connection"
    | _ => malformed "no such connection"
  | none => pure 0

/-- The builder of a reopened connection: the session's, with the step's overrides. -/
def reopenBuilder (b : Builder) (j : Json) : Decoded Builder := do
  let b ← match optField j "ticks" with
    | some t => do pure { b with ticks := some (← asBool t) }
    | none => pure b
  match optField j "flags" with
  | some f => do pure { b with createFlags := some ⟨← asNat f⟩ }
  | none => pure b

/-- Runs a step that needs the session itself: closing and reopening the first connection. -/
def sessionStep (s : Setting) (c : Nat) (op : String) (j : Json) : Db (Except Failure Json) := do
  if c != 0 then return .error (.malformed (op ++ " is not available on the second connection"))
  match op with
  | "close" =>
    Db.close c
    pure (.ok .null)
  | _ =>
    match reopenBuilder s.builder j with
    | .error f => pure (.error f)
    | .ok b =>
      match ← Db.attempt (Db.reopen c b) with
      | .ok _ => pure (.ok .null)
      | .error e => pure (.error (.library e))

mutual

/-- Runs one step: the marks it leaves, the connection it ran on, and how it ended. -/
def runStep (s : Setting) (second : Bool) (fuel : Nat) (m : Marks) (j : Json) :
    Db (Marks × Nat × Ending) := do
  match fuel with
  | 0 => pure (m, 0, .result (.error (.malformed "steps nested too deeply")))
  | fuel + 1 =>
    match connectionOf j second with
    | .error f => pure (m, 0, .result (.error f))
    | .ok c =>
      match fieldStr j "op" with
      | .error f => pure (m, c, .result (.error f))
      | .ok "panic" => pure (m, c, .panicked)
      | .ok "in_tx" =>
        match (do asArr (← field j "steps") : Decoded (List Json)) with
        | .error f => pure (m, c, .result (.error f))
        | .ok steps =>
          let body := runSteps s second fuel c m [] steps
          match ← Db.attempt (Db.runInTransaction c Interrupt.failed body) with
          | .ok ((m, inner), out) => pure (m, c, .result (.ok (inTransactionJson inner out)))
          | .error e => pure (m, c, .result (.ok (inTransactionJson [] (.error (.failed e)))))
      | .ok "close" => do pure (m, c, .result (← sessionStep s c "close" j))
      | .ok "reopen" => do pure (m, c, .result (← sessionStep s c "reopen" j))
      | .ok op =>
        match ← ((basicStep s c op j).run m).run with
        | .ok (answer, m) => pure (m, c, .result (.ok answer))
        | .error f => pure (m, c, .result (.error f))
termination_by (fuel, 0)

/-- Runs nested steps in order until one fails or panics: the marks and answers they leave,
and how many ran when all went well. -/
def runSteps (s : Setting) (second : Bool) (fuel : Nat) (c : Nat) (m : Marks) (acc : List Json)
    (steps : List Json) : Db ((Marks × List Json) × Except Interrupt Nat) := do
  match steps with
  | [] => pure ((m, acc), .ok acc.length)
  | j :: rest =>
    let (m, on, ending) ← runStep s second fuel m j
    match ending with
    | .panicked => pure ((m, acc), .error .panicked)
    | .result r =>
      let acc := acc ++ [stepAnswer r (← Db.depth on)]
      match r with
      | .error f => pure ((m, acc), .error (.failed f.asError))
      | .ok _ => runSteps s second fuel c m acc rest
termination_by (fuel, steps.length + 1)

end

/-- Runs the steps of a session at its top level, where a panic is answered like an error. -/
def runTopSteps (s : Setting) (second : Bool) (fuel : Nat) :
    Marks → List Json → Db (Marks × List Json)
  | m, [] => pure (m, [])
  | m, j :: rest => do
    let (m, on, ending) ← runStep s second fuel m j
    let result := match ending with
      | .result r => r
      | .panicked => .error .panic
    let answer := stepAnswer result (← Db.depth on)
    let (m, answers) ← runTopSteps s second fuel m rest
    pure (m, answer :: answers)

/-! ## Options -/

/-- The bit of an open flag name. -/
def openFlagBit : String → Decoded Nat
  | "read_only" => pure OpenFlags.readOnly
  | "read_write" => pure OpenFlags.readWrite
  | "create" => pure OpenFlags.create
  | "uri" => pure OpenFlags.uri
  | "memory" => pure OpenFlags.memory
  | "no_mutex" => pure OpenFlags.noMutex
  | "full_mutex" => pure OpenFlags.fullMutex
  | "shared_cache" => pure OpenFlags.sharedCache
  | "private_cache" => pure OpenFlags.privateCache
  | other => malformed ("unknown open flag " ++ other)

/-- The builder a session's options describe. -/
def decodeBuilder (req : Json) : Decoded Builder := do
  let path ← match optField req "path" with
    | some p => do
      match ← asStr p with
      | "memory" => pure (some ":memory:")
      | "shared" => pure (some sharedPath)
      | "file" => pure (some scratchPath)
      | "none" => pure none
      | other => pure (some other)
    | none => pure (some ":memory:")
  let flags ← match optField req "open_flags" with
    | some fs => do
      let bits ← (← asArr fs).mapM fun f => do openFlagBit (← asStr f)
      pure (some (OpenFlags.mk (bits.foldl (· ||| ·) 0)))
    | none => pure none
  let key ← match optField req "key" with
    | some k => do pure (some (Key.passphrase (← asStr k)))
    | none => pure none
  let key ← match optField req "raw_key" with
    | some k => do
      match hexBytes? (← asStr k) with
      | some bs => pure (some (Key.raw bs))
      | none => malformed "invalid hex"
    | none => pure key
  let ticks ← match optField req "ticks" with
    | some t => do pure (some (← asBool t))
    | none => pure none
  let busyTimeout ← match optField req "busy_ms" with
    | some t => do pure (some (← asNat t))
    | none => pure none
  let createFlags ← match optField req "flags" with
    | some f => do pure (some (CreateFlags.mk (← asNat f)))
    | none => pure none
  pure { path, flags, key, ticks, busyTimeout, createFlags }

/-! ## Writing randomness down -/

/-- Whether `part` occurs in `whole`. -/
def occursIn (part whole : String) : Bool := (whole.splitOn part).length > 1

/-- Writes each savepoint-shaped name `S<digits>D<digits>` that `keep` refuses as `<sp>`. -/
def maskSavepoints (keep : String → Bool) : Nat → List Char → List Char
  | 0, cs => cs
  | _ + 1, [] => []
  | fuel + 1, c :: rest =>
    if c == 'S' then
      let random := rest.takeWhile Char.isDigit
      let afterRandom := rest.drop random.length
      match afterRandom with
      | 'D' :: tail =>
        let depth := tail.takeWhile Char.isDigit
        if random.isEmpty || depth.isEmpty then c :: maskSavepoints keep fuel rest
        else
          let token := String.ofList ('S' :: random ++ 'D' :: depth)
          let shown := if keep token then token.toList else "<sp>".toList
          shown ++ maskSavepoints keep fuel (tail.drop depth.length)
      | _ => c :: maskSavepoints keep fuel rest
    else c :: maskSavepoints keep fuel rest

/-- The answer text with randomness written down. -/
def normalize (line : String) (w : World) (m : Marks) (text : String) : String :=
  let text := (w.generated.zipIdx).foldl (fun t (u, i) =>
    t.replace u.hyphenated ("<uuid#" ++ toString i ++ ">")) text
  let text := (m.savepoints.toList.zipIdx).foldl (fun t (tok, i) =>
    t.replace tok ("<sp#" ++ toString i ++ ">")) text
  let chars := text.toList
  let text := String.ofList (maskSavepoints (occursIn · line) (chars.length + 1) chars)
  text.replace scratchPath "<file>"

/-- The world a session starts from. -/
def freshWorld : World :=
  { engine := { sharing := .alone, stores := #[], handles := #[] }, entropy := 20240101 }

/-- Opens a session's connections: the first, a holder for a shared database, and a second one
when asked. -/
def openSession (b : Builder) (second : Bool) : Db Unit := do
  let _ ← Db.openConnection b
  if b.path == some sharedPath then Db.holdDatabase 0
  if second then
    let _ ← Db.openConnection b
    pure ()

/-- The answer text of a session request. -/
def sessionAnswer (line : String) (req : Json) : String :=
  let run : Decoded String := do
    let tables ← decodeTables req
    let b ← decodeBuilder req
    let second ← match optField req "second" with
      | some v => asBool v
      | none => pure false
    let builderDebug ← match optField req "builder_debug" with
      | some v => asBool v
      | none => pure false
    let steps ← match optField req "steps" with
      | some v => asArr v
      | none => pure []
    let builderField := if builderDebug then [("builder", Json.str b.debugText)] else []
    let s : Setting := ⟨tables, b⟩
    match EStateM.run (openSession b second) freshWorld with
    | .error e w =>
      pure (normalize line w {} (Json.obj (builderField ++ [("open", encodeError e)])).render)
    | .ok _ w =>
      match EStateM.run (runTopSteps s second (line.length + 1) {} steps) w with
      | .ok (m, answers) w =>
        pure (normalize line w m (Json.obj (builderField ++ [("steps", .arr answers)])).render)
      | .error e w => pure (normalize line w {} (encodeError e).render)
  match run with
  | .ok text => text
  | .error f => (encodeFailure f).render

end RecordMap.Wire
