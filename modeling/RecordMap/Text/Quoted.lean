/-!
# Quoted text

`quoteIdentifier` writes an SQL identifier between double quotes, each quote inside doubled,
so that every name, however odd, reads back as itself.

`debugQuote` writes text as a string literal of structural output: between double quotes,
with the quote, the backslash, tab, line feed, carriage return and NUL escaped by a backslash,
and other control and format characters, and combining marks, as `\u{…}` with lowercase
hexadecimal digits. Printable characters stand as they are.
-/

namespace RecordMap.Text

/-- The identifier between double quotes, inner quotes doubled. -/
def quoteIdentifier (name : String) : String :=
  "\"" ++ String.ofList (name.toList.flatMap fun c => if c = '"' then ['"', '"'] else [c]) ++ "\""

/-- Lowercase hexadecimal digits of `n`, at least one. -/
def hexLower (n : Nat) : String :=
  String.ofList ((Nat.toDigits 16 n).map Char.toLower)

/-- Whether a character is written as a `\u{…}` escape: controls, the soft hyphen, combining
marks, zero-width and directional format characters, separators other than the space,
surrogate-free private and unassigned code points at the end of planes. -/
def isEscapedInLiteral (c : Char) : Bool :=
  let n := c.toNat
  n < 0x20 || n == 0x7F || (0x80 ≤ n && n ≤ 0x9F) || n == 0xAD ||
    (0x300 ≤ n && n ≤ 0x36F) || (0x483 ≤ n && n ≤ 0x489) || (0x591 ≤ n && n ≤ 0x5BD) ||
    n == 0x61C || n == 0x6DD || n == 0x70F || n == 0x180E ||
    (0x200B ≤ n && n ≤ 0x200F) || (0x2028 ≤ n && n ≤ 0x202E) || (0x2060 ≤ n && n ≤ 0x2064) ||
    (0x2066 ≤ n && n ≤ 0x206F) || (0x20D0 ≤ n && n ≤ 0x20F0) || (0xFE00 ≤ n && n ≤ 0xFE0F) ||
    (0xFE20 ≤ n && n ≤ 0xFE2F) || n == 0xFEFF || (0xFFF0 ≤ n && n ≤ 0xFFFB) ||
    n == 0xFFFE || n == 0xFFFF || (0xE000 ≤ n && n ≤ 0xF8FF) || (0xE0000 ≤ n && n ≤ 0xE0FFF) ||
    0xF0000 ≤ n

/-- A character inside a structural string literal. -/
def debugChar (c : Char) : String :=
  match c with
  | '"' => "\\\""
  | '\\' => "\\\\"
  | '\t' => "\\t"
  | '\n' => "\\n"
  | '\r' => "\\r"
  | c =>
    if c.toNat = 0 then "\\0"
    else if isEscapedInLiteral c then "\\u\x7b" ++ hexLower c.toNat ++ "\x7d"
    else c.toString

/-- Text as a structural string literal. -/
def debugQuote (s : String) : String :=
  "\"" ++ String.join (s.toList.map debugChar) ++ "\""

end RecordMap.Text
