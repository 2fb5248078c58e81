import RecordMap.Sql.Token

/-!
# Engine failures

A `Fault` is what the engine reports when a statement fails: an extended result code, the
message, and, for a failure found while compiling the statement text, the byte offset of the
token it points at when the message names one.

The codes are the engine's: 1 a plain error, 5 a busy database, 6 a locked table (262 when the
lock is another connection's on a shared cache), 8 a read-only database, 19 a constraint (1299
NOT NULL, 2067 UNIQUE, 1555 PRIMARY KEY, 275 CHECK), 20 a datatype mismatch, 21 misuse, 25 a
parameter index out of range.
-/

namespace RecordMap.Sql

/-- What a failing statement undoes: its own changes (the usual case), none of them (a `fail`
resolution), or the whole transaction (a `rollback` resolution). -/
inductive Undo where
  | statement
  | nothing
  | transaction
  deriving Repr, DecidableEq, Inhabited

/-- A failure of the engine. -/
structure Fault where
  code : Nat
  message : String
  offset : Option Nat
  undo : Undo
  deriving Repr, Inhabited

namespace Fault

/-- A plain error with no place in the text. -/
def error (message : String) : Fault := ⟨1, message, none, .statement⟩

/-- A failure with a code and no place in the text. -/
def coded (code : Nat) (message : String) : Fault := ⟨code, message, none, .statement⟩

/-- An error pointing at a place in the text. -/
def pointing (message : String) (offset : Nat) : Fault := ⟨1, message, some offset, .statement⟩

/-- The failure to parse at a token: the end of the text is incomplete input, a token that
starts nothing is unrecognized, any other is a syntax error near it. -/
def syntaxAt (t : Token) : Fault :=
  let text := t.text
  match t.kind with
  | .finish => error "incomplete input"
  | .illegal => pointing s!"unrecognized token: \"{text}\"" t.offset
  | _ => pointing s!"near \"{text}\": syntax error" t.offset

/-- A NOT NULL constraint failure on a column. -/
def notNull (table column : String) : Fault :=
  coded 1299 s!"NOT NULL constraint failed: {table}.{column}"

/-- A UNIQUE constraint failure on some columns; `primary` for a primary key. -/
def unique (table : String) (columns : List String) (primary : Bool) : Fault :=
  let names := ", ".intercalate (columns.map fun c => table ++ "." ++ c)
  coded (if primary then 1555 else 2067) s!"UNIQUE constraint failed: {names}"

/-- A value of the wrong type for an integer key. -/
def mismatch : Fault := coded 20 "datatype mismatch"

/-- The database file is locked by another connection. -/
def busy : Fault := coded 5 "database is locked"

/-- A write to a read-only database. -/
def readonly : Fault := coded 8 "attempt to write a readonly database"

end Fault

end RecordMap.Sql
