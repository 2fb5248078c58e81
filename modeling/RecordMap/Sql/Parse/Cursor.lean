import RecordMap.Sql.Syntax
import RecordMap.Sql.Fault

/-!
# Reading tokens

The parser reads a statement's tokens by recursive descent. This module holds what every part
of it shares: the keyword classes, the `Parser` monad with its cursor, and the small readers
of single tokens.

Keywords come in three classes. Most of them may also stand for a name wherever the grammar
takes a name and the keyword itself does not fit (`fallbackWords`); the join keywords may name
a column or table but not stand as an alias without `as`; the rest are reserved. `window`,
`over` and `filter` are names unless what follows makes them keywords.

A failure is reported at the token the parser could not take: `near "X": syntax error` with the
token's byte offset, `unrecognized token: "X"` for a token that starts nothing, and
`incomplete input` when the text ends first.
-/

namespace RecordMap.Sql

/-- Every keyword. -/
def keywordList : List String :=
  ["ABORT", "ACTION", "ADD", "AFTER", "ALL", "ALTER", "ALWAYS", "ANALYZE", "AND", "AS", "ASC",
   "ATTACH", "AUTOINCREMENT", "BEFORE", "BEGIN", "BETWEEN", "BY", "CASCADE", "CASE", "CAST",
   "CHECK", "COLLATE", "COLUMN", "COMMIT", "CONFLICT", "CONSTRAINT", "CREATE", "CROSS",
   "CURRENT", "CURRENT_DATE", "CURRENT_TIME", "CURRENT_TIMESTAMP", "DATABASE", "DEFAULT",
   "DEFERRED", "DEFERRABLE", "DELETE", "DESC", "DETACH", "DISTINCT", "DO", "DROP", "END", "EACH",
   "ELSE", "ESCAPE", "EXCEPT", "EXCLUSIVE", "EXCLUDE", "EXISTS", "EXPLAIN", "FAIL", "FIRST",
   "FOLLOWING", "FOR", "FOREIGN", "FROM", "FULL", "GENERATED", "GLOB", "GROUP", "GROUPS",
   "HAVING", "IF", "IGNORE", "IMMEDIATE", "IN", "INDEX", "INDEXED", "INITIALLY", "INNER",
   "INSERT", "INSTEAD", "INTERSECT", "INTO", "IS", "ISNULL", "JOIN", "KEY", "LAST", "LEFT",
   "LIKE", "LIMIT", "MATCH", "MATERIALIZED", "NATURAL", "NO", "NOT", "NOTHING", "NOTNULL",
   "NULL", "NULLS", "OF", "OFFSET", "ON", "OR", "ORDER", "OTHERS", "OUTER", "PARTITION", "PLAN",
   "PRAGMA", "PRECEDING", "PRIMARY", "QUERY", "RAISE", "RANGE", "RECURSIVE", "REFERENCES",
   "REGEXP", "REINDEX", "RELEASE", "RENAME", "REPLACE", "RESTRICT", "RETURNING", "RIGHT",
   "ROLLBACK", "ROW", "ROWS", "SAVEPOINT", "SELECT", "SET", "TABLE", "TEMP", "TEMPORARY",
   "THEN", "TIES", "TO", "TRANSACTION", "TRIGGER", "UNBOUNDED", "UNION", "UNIQUE", "UPDATE",
   "USING", "VACUUM", "VALUES", "VIEW", "VIRTUAL", "WHEN", "WHERE", "WITH", "WITHOUT"]

/-- Keywords that stand for a name where the keyword itself does not fit. -/
def fallbackWords : List String :=
  ["ABORT", "ACTION", "AFTER", "ANALYZE", "ASC", "ATTACH", "BEFORE", "BEGIN", "BY", "CASCADE",
   "CAST", "COLUMN", "CONFLICT", "DATABASE", "DEFERRED", "DESC", "DETACH", "DO", "EACH", "END",
   "EXCLUSIVE", "EXPLAIN", "FAIL", "FOR", "IGNORE", "IMMEDIATE", "INITIALLY", "INSTEAD", "LIKE",
   "GLOB", "REGEXP", "MATCH", "NO", "PLAN", "QUERY", "KEY", "OF", "OFFSET", "PRAGMA", "RAISE",
   "RECURSIVE", "RELEASE", "REPLACE", "RESTRICT", "ROW", "ROWS", "ROLLBACK", "SAVEPOINT", "TEMP",
   "TEMPORARY", "TRIGGER", "VACUUM", "VIEW", "VIRTUAL", "WITH", "WITHOUT", "NULLS", "FIRST",
   "LAST", "CURRENT", "FOLLOWING", "PARTITION", "PRECEDING", "RANGE", "UNBOUNDED", "EXCLUDE",
   "GROUPS", "OTHERS", "TIES", "GENERATED", "ALWAYS", "MATERIALIZED", "REINDEX", "RENAME",
   "CURRENT_DATE", "CURRENT_TIME", "CURRENT_TIMESTAMP", "IF"]

def joinWords : List String := ["CROSS", "FULL", "INNER", "LEFT", "NATURAL", "OUTER", "RIGHT"]

/-- Whether an upper-cased word is a keyword. -/
def isKeyword (u : String) : Bool := keywordList.contains u

namespace Token

/-- The upper-cased text of a word. -/
def upper? (t : Token) : Option String :=
  match t.kind with
  | .word w => some w.toUpper
  | _ => none

/-- Whether the token is the keyword `w` (given in upper case). -/
def isWord (t : Token) (w : String) : Bool := t.upper? == some w

/-- Whether the token is the symbol `s`. -/
def isSymbol (t : Token) (s : String) : Bool := t.kind == .symbol s

/-- A word that is an identifier or a keyword standing for one. -/
def plainName? (t : Token) : Option String :=
  match t.kind with
  | .word w =>
    let u := w.toUpper
    if !isKeyword u || fallbackWords.contains u then some w else none
  | .quoted n _ => some n
  | _ => none

/-- A name as the grammar's `id`: an identifier, a keyword standing for one, or `indexed`. -/
def id? (t : Token) : Option String :=
  match t.plainName? with
  | some n => some n
  | none => if t.isWord "INDEXED" then (match t.kind with | .word w => some w | _ => none) else none

/-- A name that may also be a join keyword, as a column or table name is. -/
def idj? (t : Token) : Option String :=
  match t.id? with
  | some n => some n
  | none =>
    match t.kind with
    | .word w => if joinWords.contains w.toUpper then some w else none
    | _ => none

/-- A name or a string standing for one. -/
def nm? (t : Token) : Option String :=
  match t.kind with
  | .string s => some s
  | _ => t.idj?

/-- An identifier or a string, as a type name, an alias without `as` or a collation name is. -/
def ids? (t : Token) : Option String :=
  match t.kind with
  | .string s => some s
  | _ => t.plainName?

end Token

/-- A name written in quotes, without them: the text up to the closing quote, a doubled quote
standing for one. Text that does not start with a quote stays as it is. -/
def dequote (s : String) : String :=
  match s.toList with
  | q :: rest =>
    if q == '"' || q == '\'' || q.toNat == 96 then String.ofList (scanQuoted q rest).1
    else if q == '[' then String.ofList (rest.takeWhile (· != ']'))
    else s
  | [] => s

/-- The blanks at both ends of a text dropped. -/
def trimBlanks (s : String) : String :=
  String.ofList ((s.toList.dropWhile isSpace).reverse.dropWhile isSpace).reverse

/-- What the parser reads: the tokens and the characters of the text. -/
structure Lexed where
  tokens : Array Token
  chars : Array Char

/-- Where the parser is: the index of the next token and the parameter names seen so far. -/
structure ParseState where
  pos : Nat
  params : Array (Option String)

abbrev Parser := ReaderT Lexed (StateT ParseState (Except Fault))

namespace Parser

/-- The token a parser sees past the end: the end of the text. -/
def lastToken (src : Lexed) : Token := src.tokens.back?.getD ⟨.finish, "", 0, 0, 0⟩

/-- The token at the cursor. A token that starts nothing fails as soon as it is reached. -/
def current : Parser Token := do
  let src ← read
  let c ← get
  let t := src.tokens.getD c.pos (lastToken src)
  if t.kind == .illegal then throw (Fault.syntaxAt t) else pure t

/-- The token `k` places after the cursor's. -/
def ahead (k : Nat) : Parser Token := do
  let src ← read
  let c ← get
  pure (src.tokens.getD (c.pos + k) (lastToken src))

/-- Whether the next tokens open a `window` clause: `window`, a name, then `as`. Only then is
`window` a keyword; otherwise it is a name, an alias among others. -/
def opensWindow : Parser Bool := do
  pure ((← current).isWord "WINDOW" && (← ahead 1).nm?.isSome && (← ahead 2).isWord "AS")

/-- The token before the cursor's. -/
def previous : Parser Token := do
  let src ← read
  let c ← get
  pure (src.tokens.getD (c.pos - 1) (lastToken src))

/-- The character index just past the last token taken. -/
def previousStop : Parser Nat := do
  pure (← previous).stop

/-- Moves past the token at the cursor. -/
def advance : Parser Unit := modify fun c => { c with pos := c.pos + 1 }

/-- Fails at the token at the cursor. -/
def failHere {α : Type} : Parser α := do
  let t ← current
  throw (Fault.syntaxAt t)

def tooDeep {α : Type} : Parser α := throw (Fault.error "parser stack overflow")

/-- Takes the keyword `w` if it is at the cursor. -/
def acceptWord (w : String) : Parser Bool := do
  if (← current).isWord w then
    advance
    pure true
  else pure false

/-- Takes the symbol `s` if it is at the cursor. -/
def acceptSymbol (s : String) : Parser Bool := do
  if (← current).isSymbol s then
    advance
    pure true
  else pure false

/-- Takes the keyword `w`, failing when something else is at the cursor. -/
def expectWord (w : String) : Parser Unit := do
  unless (← acceptWord w) do failHere

/-- Takes the symbol `s`, failing when something else is at the cursor. -/
def expectSymbol (s : String) : Parser Token := do
  let t ← current
  if t.isSymbol s then
    advance
    pure t
  else failHere

/-- Takes a token of the class `f` picks. -/
def takeWith (f : Token → Option String) : Parser (String × Token) := do
  let t ← current
  match f t with
  | some n =>
    advance
    pure (n, t)
  | none => failHere

/-- Takes a name (`nm`). -/
def nm : Parser (String × Token) := takeWith Token.nm?

/-- Takes an identifier or string (`ids`). -/
def ids : Parser (String × Token) := takeWith Token.ids?

/-- Takes a name that may be qualified by a schema name, `main.t`: the schema and the name. -/
def qualifiedName : Parser (Option String × String × Token) := do
  let (first, tok) ← nm
  if (← current).isSymbol "." then
    advance
    let (second, tok2) ← nm
    pure (some first, second, tok2)
  else pure (none, first, tok)

/-- The text between two character indexes. -/
def between (a b : Nat) : Parser String := do
  let src ← read
  pure (String.ofList (src.chars.extract a b).toList)

/-- The number of a parameter, registering its name: `?` takes the next number, `?N` the number
`N`, a named parameter the number it had before or the next one. -/
def paramSlot (t : Token) : Parser Nat := do
  let c ← get
  let text := t.text
  match text.toList with
  | ['?'] =>
    set { c with params := c.params.push none }
    pure (c.params.size + 1)
  | '?' :: digits =>
    let n := digits.foldl (fun a d => 10 * a + (d.toNat - 48)) 0
    if digits.length > 18 || n < 1 || n > 32766 then
      throw (Fault.pointing "variable number must be between ?1 and ?32766" t.offset)
    let params :=
      if n > c.params.size then c.params ++ Array.replicate (n - c.params.size) none else c.params
    let params :=
      if (params.getD (n - 1) none).isNone then params.setIfInBounds (n - 1) (some text) else params
    set { c with params }
    pure n
  | _ =>
    match c.params.findIdx? (· == some text) with
    | some i => pure (i + 1)
    | none =>
      set { c with params := c.params.push (some text) }
      pure (c.params.size + 1)

/-- Takes `[+|-] number`. -/
def signedNumber : Parser Unit := do
  let t ← current
  if t.isSymbol "+" || t.isSymbol "-" then advance
  let u ← current
  match u.kind with
  | .integer _ | .float _ => advance
  | _ => failHere

/-- Takes words while they may be part of a type name. -/
def typeWords : Nat → Parser Unit
  | 0 => pure ()
  | n + 1 => do
    if (← current).ids?.isSome then
      advance
      typeWords n
    else pure ()

/-- A type name: words, optionally followed by one or two numbers in parentheses. Its text as
written, or empty when there is none. -/
def typeName : Parser String := do
  let first ← current
  if first.ids?.isNone then pure "" else
  let src ← read
  typeWords src.tokens.size
  if (← current).isSymbol "(" then
    advance
    signedNumber
    if ← acceptSymbol "," then signedNumber
    let _ ← expectSymbol ")"
  let stop ← previousStop
  between first.index stop

/-- A conflict resolution keyword. -/
def conflictWord : Parser Conflict := do
  let t ← current
  let c? : Option Conflict := match t.upper? with
    | some "ROLLBACK" => some .rollback
    | some "ABORT" => some .abort
    | some "FAIL" => some .fail
    | some "IGNORE" => some .ignore
    | some "REPLACE" => some .replace
    | _ => none
  match c? with
  | some c =>
    advance
    pure c
  | none => failHere

/-- An optional `or <conflict>` after `insert` or `update`. -/
def orConflict : Parser Conflict := do
  if ← acceptWord "OR" then conflictWord else pure .unset

/-- An optional `on conflict <conflict>` of a constraint. -/
def onConflict : Parser Conflict := do
  if (← current).isWord "ON" then
    advance
    expectWord "CONFLICT"
    conflictWord
  else pure .unset

/-- Names separated by commas, at least one. -/
def nameList : Nat → Parser (List (String × Token))
  | 0 => tooDeep
  | n + 1 => do
    let l ← nm
    if ← acceptSymbol "," then
      let rest ← nameList n
      pure (l :: rest)
    else pure [l]

/-- Takes `if not exists` when it is there. -/
def ifNotExists : Parser Bool := do
  if (← current).isWord "IF" && (← ahead 1).isWord "NOT" then
    advance
    advance
    expectWord "EXISTS"
    pure true
  else pure false

/-- Takes `if exists` when it is there. -/
def ifExists : Parser Bool := do
  if (← current).isWord "IF" && (← ahead 1).isWord "EXISTS" then
    advance
    advance
    pure true
  else pure false

end Parser

end RecordMap.Sql
