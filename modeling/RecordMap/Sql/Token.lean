import RecordMap.Sql.Bytes

/-!
# Tokens of statement text

`tokenize` splits statement text into tokens, dropping blanks and comments (`-- …` to the end
of the line, `/* … */` to its close or the end of the text). Each token keeps its source text,
its byte offset (which error messages report) and its character index (from which the text of
a clause is cut out again).

* Words are letters, digits, `_`, `$` and every non-ASCII character, not starting with a digit
  or `$`; whether a word is a keyword is the parser's business.
* `"…"`, `[…]` and the back-quoted form are quoted names, `'…'` is a string; a doubled quote
  stands for itself. An unterminated one is an illegal token.
* Numbers are digits with an optional fraction and exponent, or `0x` and hex digits; a decimal
  number run into word characters is illegal. `x'…'` is a blob of an even number of hex digits.
* Parameters are `?` with optional digits, and `:name`, `@name`, `$name`, `#name`, where a
  name may hold `::` and end in a parenthesized suffix, as `$a::b(c)`.
* A character that starts no token is an illegal token of its own.
-/

namespace RecordMap.Sql

/-- What a token is. -/
inductive TokenKind where
  | word (text : String)
  /-- A quoted name; `doubleQuoted` when written in double quotes, which may also stand for a
  string. -/
  | quoted (name : String) (doubleQuoted : Bool)
  | string (value : String)
  | integer (text : String)
  | float (text : String)
  | blob (bytes : Bytes)
  | param (text : String)
  | symbol (text : String)
  | illegal
  | finish
  deriving Repr, Inhabited, BEq

/-- A token with its place in the statement text. -/
structure Token where
  kind : TokenKind
  text : String
  /-- The byte offset of the token. -/
  offset : Nat
  /-- The character index of the token. -/
  index : Nat
  /-- The character index just past the token. -/
  stop : Nat
  deriving Repr, Inhabited

/-- Characters that continue a word. -/
def isWordChar (c : Char) : Bool :=
  c.isAlphanum || c == '_' || c == '$' || c.toNat ≥ 0x80

/-- Characters that may begin a word. -/
def isWordStart (c : Char) : Bool :=
  c.isAlpha || c == '_' || c.toNat ≥ 0x80

/-- Blanks between tokens: space, tab, line feed, form feed and carriage return. -/
def isGap (c : Char) : Bool :=
  c == ' ' || c == '\t' || c == '\n' || c == '\r' || c.toNat == 0x0C

/-- The blanks the engine skips around text: the gaps and the vertical tab. -/
def isSpace (c : Char) : Bool := isGap c || c.toNat == 0x0B

/-- Whether a character is an ASCII digit. -/
def isDigit (c : Char) : Bool := '0' ≤ c && c ≤ '9'

/-- The value of a hex digit. -/
def hexDigitValue? (c : Char) : Option Nat :=
  if '0' ≤ c && c ≤ '9' then some (c.toNat - 48)
  else if 'a' ≤ c && c ≤ 'f' then some (c.toNat - 87)
  else if 'A' ≤ c && c ≤ 'F' then some (c.toNat - 55)
  else none

/-- Whether a character is a hex digit. -/
def isHexDigit (c : Char) : Bool := (hexDigitValue? c).isSome

/-- The UTF-8 length of some characters. -/
def byteCount (cs : List Char) : Nat := cs.foldl (fun n c => n + c.utf8Size) 0

/-- The body of a quoted token up to its closing quote, a doubled quote standing for one; the
body, the number of characters taken (quotes included) and whether the quote closed. -/
def scanQuoted (q : Char) : List Char → List Char × Nat × Bool
  | [] => ([], 0, false)
  | c :: rest =>
    if c == q then
      match rest with
      | d :: more =>
        if d == q then
          let (body, n, ok) := scanQuoted q more
          (q :: body, n + 2, ok)
        else ([], 1, true)
      | [] => ([], 1, true)
    else
      let (body, n, ok) := scanQuoted q rest
      (c :: body, n + 1, ok)

/-- The characters of a block comment after its opening, up to and including the close. -/
def blockCommentLength : List Char → Nat
  | '*' :: '/' :: _ => 2
  | _ :: rest => blockCommentLength rest + 1
  | [] => 0

/-- The length of a number token and whether it is a float; `none` for the kind when a decimal
number runs into word characters. -/
def scanNumberToken (cs : List Char) : Nat × Option Bool :=
  match cs with
  | '0' :: x :: h :: rest =>
    if (x == 'x' || x == 'X') && isHexDigit h then
      (3 + (rest.takeWhile isHexDigit).length, some false)
    else decimalToken cs
  | _ => decimalToken cs
where
  decimalToken (cs : List Char) : Nat × Option Bool :=
    let whole := (cs.takeWhile isDigit).length
    let rest := cs.drop whole
    let (frac, isFloat, rest) := match rest with
      | '.' :: more =>
        let k := (more.takeWhile isDigit).length
        (k + 1, true, more.drop k)
      | _ => (0, false, rest)
    let (expo, isFloat, rest) := match rest with
      | e :: d :: more =>
        if (e == 'e' || e == 'E') && isDigit d then
          let k := (more.takeWhile isDigit).length
          (k + 2, true, more.drop k)
        else if (e == 'e' || e == 'E') && (d == '+' || d == '-') then
          match more with
          | g :: more2 =>
            if isDigit g then
              let k := (more2.takeWhile isDigit).length
              (k + 3, true, more2.drop k)
            else (0, isFloat, rest)
          | [] => (0, isFloat, rest)
        else (0, isFloat, rest)
      | _ => (0, isFloat, rest)
    let tail := (rest.takeWhile isWordChar).length
    (whole + frac + expo + tail, if tail > 0 then none else some isFloat)

/-- The length of a named parameter after its sigil and whether it is legal: word characters,
`::` pairs, and a parenthesized suffix after at least one word character. -/
def scanNamedParam (n : Nat) : List Char → Nat × Bool
  | [] => (0, n > 0)
  | ':' :: ':' :: rest =>
    let (k, ok) := scanNamedParam n rest
    (k + 2, ok)
  | c :: rest =>
    if isWordChar c then
      let (k, ok) := scanNamedParam (n + 1) rest
      (k + 1, ok)
    else if c == '(' && n > 0 then
      let body := rest.takeWhile fun d => !isSpace d && d != ')'
      match rest.drop body.length with
      | ')' :: _ => (body.length + 2, true)
      | _ => (body.length + 1, false)
    else (0, n > 0)

/-- Reads bytes from pairs of hex digits. -/
def hexPairs : List Char → Bytes
  | a :: b :: rest =>
    (((hexDigitValue? a).getD 0) * 16 + (hexDigitValue? b).getD 0).toUInt8 :: hexPairs rest
  | _ => []

/-- Multi-character symbols, longest first. -/
def longSymbols : List String :=
  ["->>", "||", "<=", ">=", "<>", "!=", "==", "<<", ">>", "->"]

/-- One-character symbols. -/
def shortSymbols : List Char :=
  ['(', ')', ',', ';', '.', '+', '-', '*', '/', '%', '&', '|', '~', '<', '>', '=']

/-- One step of the scanner: the kind and character length of the token at the front, or
`none` for blanks and comments of the given length. -/
def scanOne (cs : List Char) : Option TokenKind × Nat :=
  match cs with
  | [] => (some .finish, 0)
  | c :: rest =>
    if isGap c then (none, 1 + (rest.takeWhile isGap).length)
    else if c.toNat == 0xFEFF then (none, 1)
    else if c == '-' && rest.head? == some '-' then
      (none, 1 + (rest.takeWhile (· != '\n')).length)
    else if c == '/' && rest.head? == some '*' then
      (none, 2 + blockCommentLength (rest.drop 1))
    else if c == '\'' || c == '"' || c.toNat == 96 then
      let (body, n, ok) := scanQuoted c rest
      if !ok then (some .illegal, n + 1)
      else if c == '\'' then (some (.string (String.ofList body)), n + 1)
      else (some (.quoted (String.ofList body) (c == '"')), n + 1)
    else if c == '[' then
      let body := rest.takeWhile (· != ']')
      if body.length < rest.length then (some (.quoted (String.ofList body) false), body.length + 2)
      else (some .illegal, body.length + 1)
    else if (c == 'x' || c == 'X') && rest.head? == some '\'' then
      let digits := (rest.drop 1).takeWhile isHexDigit
      let after := (rest.drop 1).drop digits.length
      if after.head? == some '\'' && digits.length % 2 == 0 then
        (some (.blob (hexPairs digits)), digits.length + 3)
      else
        let junk := after.takeWhile (· != '\'')
        let closed := junk.length < after.length
        (some .illegal, 2 + digits.length + junk.length + (if closed then 1 else 0))
    else if isDigit c || (c == '.' && (rest.head?.map isDigit).getD false) then
      let (n, kind) := scanNumberToken cs
      let text := String.ofList (cs.take n)
      match kind with
      | some true => (some (.float text), n)
      | some false => (some (.integer text), n)
      | none => (some .illegal, n)
    else if isWordStart c then
      let n := 1 + (rest.takeWhile isWordChar).length
      (some (.word (String.ofList (cs.take n))), n)
    else if c == '?' then
      let n := 1 + (rest.takeWhile isDigit).length
      (some (.param (String.ofList (cs.take n))), n)
    else if c == ':' || c == '@' || c == '$' || c == '#' then
      let (n, ok) := scanNamedParam 0 rest
      if ok then (some (.param (String.ofList (cs.take (n + 1)))), n + 1) else (some .illegal, n + 1)
    else if c == '!' && rest.head? != some '=' then (some .illegal, 1)
    else
      match longSymbols.find? (fun s => cs.take s.length == s.toList) with
      | some s => (some (.symbol s), s.length)
      | none =>
        if shortSymbols.contains c then (some (.symbol c.toString), 1)
        else (some .illegal, 1)

/-- The tokens of a text, ending with a `finish` token at its end. -/
def tokenize (text : String) : List Token :=
  go text.toList 0 0 (text.length + 1)
where
  go (cs : List Char) (offset index : Nat) : Nat → List Token
    | 0 => [⟨.finish, "", offset, index, index⟩]
    | fuel + 1 =>
      let (kind, n) := scanOne cs
      let n := max n 1
      let taken := cs.take n
      match kind with
      | some .finish => [⟨.finish, "", offset, index, index⟩]
      | some k =>
        ⟨k, String.ofList taken, offset, index, index + taken.length⟩ ::
          go (cs.drop n) (offset + byteCount taken) (index + taken.length) fuel
      | none => go (cs.drop n) (offset + byteCount taken) (index + taken.length) fuel

end RecordMap.Sql
