import RecordMap.Database.Command

/-!
# Transactions and savepoints

A connection counts how deeply its transactions are nested: `begin` opens the outermost one
and needs the count to be 0; each savepoint adds one, and its name records the count it was
made at, as `S<random>D<depth>`. Releasing or rolling back to a savepoint first brings the count
back to the savepoint's own, which must be below the current count, and then tells the engine.
`commit` and `rollback` set the count to 0, and tell the engine only when the count was above 0.

When the engine refuses, the count is repaired. A failure that could pass (a busy or locked
database, a full disk, an I/O error, an interrupt) rolls everything back quietly when the count
is still above 0; any other failure puts the count back where it was. A refused commit, or a
refused release after rolling back to a savepoint, rolls back unconditionally.

`runInTransaction` runs a body inside a fresh savepoint: released when the body succeeds,
rolled back to when it fails, its own failure to roll back being ignored.
-/

namespace RecordMap

namespace Db

/-- The nesting depth of a connection's transactions. -/
def depth (c : Nat) : Db Nat := do
  pure (← connection c).depth

/-- Sets the nesting depth of a connection's transactions. -/
def setDepth (c : Nat) (d : Nat) : Db Unit :=
  modifyConnection c fun k => { k with depth := d }

/-- Whether a text is one or more ASCII digits. -/
def allDigits (cs : List Char) : Bool := !cs.isEmpty && cs.all Char.isDigit

/-- The largest count the depth of a savepoint name may hold. -/
def maxDepthCount : Nat := Nat.pow 2 64 - 1

/-- The depth a savepoint name was made at: the name is `S`, digits, `D`, digits. -/
def savepointDepth? (token : String) : Option Nat :=
  match token.toList with
  | 'S' :: rest =>
    match rest.dropWhile (· != 'D') with
    | 'D' :: depth =>
      let random := rest.takeWhile (· != 'D')
      if allDigits random && allDigits depth then
        let n := Numeral.digitsToNat depth
        if n ≤ maxDepthCount then some n else none
      else none
    | _ => none
  | _ => none

/-- The error of a savepoint name that no call made at this depth. -/
def invalidSavepoint (token : String) : Error :=
  .transactionState ("savepoint '" ++ token ++
    "' is not valid, and should be the result of a call to save_transaction_point")

/-- Rolls back, ignoring a failure. -/
def rollbackIgnoringErrors (c : Nat) : Db Unit :=
  quietly (do let _ ← execute c "rollback" []; pure ())

/-- Sets the depth to 0 and rolls back if it was above 0. -/
def rollbackQuietly (c : Nat) : Db Unit := do
  let old ← depth c
  setDepth c 0
  if old > 0 then rollbackIgnoringErrors c

/-- Sets the depth to 0 and rolls back. -/
def forceRollbackQuietly (c : Nat) : Db Unit := do
  setDepth c 0
  rollbackIgnoringErrors c

/-- Repairs the depth after the engine refused to open a transaction or savepoint. -/
def recoverFailedOpen (c : Nat) (e : Error) : Db Unit := do
  if e.isTransient then rollbackQuietly c
  else setDepth c ((← depth c) - 1)

/-- Opens the outermost transaction. -/
def beginTransaction (c : Nat) : Db Unit := do
  if (← depth c) != 0 then
    throw (.transactionState "cannot begin a transaction while already in a transaction")
  setDepth c 1
  match ← attempt (execute c "begin transaction" []) with
  | .ok _ => pure ()
  | .error e =>
    recoverFailedOpen c e
    throw e

/-- Opens a savepoint, returning its name. -/
def saveTransactionPoint (c : Nat) : Db String := do
  let old ← depth c
  setDepth c (old + 1)
  let r := (← random) % 32767
  let token := "S" ++ toString r ++ "D" ++ toString old
  match ← attempt (execute c ("savepoint " ++ token) []) with
  | .ok _ => pure token
  | .error e =>
    recoverFailedOpen c e
    throw e

/-- Rolls back every open transaction. -/
def rollback (c : Nat) : Db Unit := do
  let old ← depth c
  setDepth c 0
  if old > 0 then
    let _ ← execute c "rollback" []

/-- Brings the depth back to a savepoint's and runs `verb` on it. -/
def savepointExecute (c : Nat) (token verb : String) : Db Unit := do
  let current ← depth c
  let target ← match savepointDepth? token with
    | some d => if d < current then pure d else throw (invalidSavepoint token)
    | none => throw (invalidSavepoint token)
  setDepth c target
  match ← attempt (execute c (verb ++ " " ++ token) []) with
  | .ok _ => pure ()
  | .error e =>
    if e.isTransient then rollbackQuietly c
    else if (← depth c) == target then setDepth c current
    throw e

/-- Undoes what was done since a savepoint and ends it; the empty name rolls everything back. -/
def rollbackTo (c : Nat) (token : String) : Db Unit := do
  if token.isEmpty then rollback c
  else
    savepointExecute c token "rollback to"
    match ← attempt (execute c ("release " ++ token) []) with
    | .ok _ => pure ()
    | .error e =>
      forceRollbackQuietly c
      throw e

/-- Ends a savepoint, keeping what was done since it. -/
def release (c : Nat) (token : String) : Db Unit :=
  savepointExecute c token "release"

/-- Commits every open transaction. -/
def commit (c : Nat) : Db Unit := do
  let old ← depth c
  setDepth c 0
  if old != 0 then
    match ← attempt (execute c "commit" []) with
    | .ok _ => pure ()
    | .error e =>
      forceRollbackQuietly c
      throw e

/-- Runs a body inside a fresh savepoint: released when the body ends well, rolled back to
when it ends in any other way. The body hands back what it leaves behind (`β`) with how it
ended; a refused release ends the call with its error, lifted by `lift`. -/
def runInTransaction {β ε α : Type} (c : Nat) (lift : Error → ε) (body : Db (β × Except ε α)) :
    Db (β × Except ε α) := do
  let token ← saveTransactionPoint c
  match ← attempt body with
  | .ok (b, .ok a) =>
    match ← attempt (release c token) with
    | .ok _ => pure (b, .ok a)
    | .error e => pure (b, .error (lift e))
  | .ok (b, .error e) =>
    quietly (rollbackTo c token)
    pure (b, .error e)
  | .error e =>
    quietly (rollbackTo c token)
    throw e

end Db

end RecordMap
