/-!
# JSON documents

A `Json` value is a JSON document with numbers kept as the text they were written in, so that
reading a number decides its meaning once (`Json/Number`) and writing one never loses digits.
Objects keep their members in order, as a list of name and value.

`Json.render` writes a document compactly: strings escape the quote, the backslash and the
control characters, and nothing else.
-/

namespace RecordMap

/-- A JSON document. -/
inductive Json where
  | null
  | bool (b : Bool)
  | number (text : String)
  | str (s : String)
  | arr (items : List Json)
  | obj (fields : List (String × Json))
  deriving Repr, Inhabited

namespace Json

def ofInt (i : Int) : Json := .number (toString i)

def ofNat (n : Nat) : Json := .number (toString n)

/-- The member of an object with the given name, the last one if several. -/
def get? (j : Json) (name : String) : Option Json :=
  match j with
  | .obj fields => (fields.reverse.find? (·.1 == name)).map (·.2)
  | _ => none

/-- Whether an object has a member of that name. -/
def has (j : Json) (name : String) : Bool := (j.get? name).isSome

/-- The text of a string document. -/
def str? : Json → Option String
  | .str s => some s
  | _ => none

/-- The items of an array document. -/
def arr? : Json → Option (List Json)
  | .arr items => some items
  | _ => none

/-- The members of an object document. -/
def obj? : Json → Option (List (String × Json))
  | .obj fields => some fields
  | _ => none

/-- The value of a boolean document. -/
def bool? : Json → Option Bool
  | .bool b => some b
  | _ => none

/-- Whether the document is null. -/
def isNull : Json → Bool
  | .null => true
  | _ => false

/-- The hexadecimal digit of `d < 16`. -/
def hexDigit (d : Nat) : Char :=
  if d < 10 then Char.ofNat (48 + d) else Char.ofNat (87 + d)

/-- A character inside a string literal. -/
def escapeChar (c : Char) : List Char :=
  match c with
  | '"' => ['\\', '"']
  | '\\' => ['\\', '\\']
  | '\n' => ['\\', 'n']
  | '\r' => ['\\', 'r']
  | '\t' => ['\\', 't']
  | c =>
    if c.toNat < 0x20 then
      ['\\', 'u', '0', '0', hexDigit (c.toNat / 16), hexDigit (c.toNat % 16)]
    else [c]

/-- A string literal. -/
def quote (s : String) : String :=
  String.ofList ('"' :: (s.toList.flatMap escapeChar ++ ['"']))

mutual

/-- The compact text of a document. -/
def render : Json → String
  | .null => "null"
  | .bool b => if b then "true" else "false"
  | .number t => t
  | .str s => quote s
  | .arr items => "[" ++ renderItems items ++ "]"
  | .obj fields => "\x7b" ++ renderFields fields ++ "\x7d"

/-- Items separated by commas. -/
def renderItems : List Json → String
  | [] => ""
  | [j] => render j
  | j :: rest => render j ++ "," ++ renderItems rest

/-- Members separated by commas. -/
def renderFields : List (String × Json) → String
  | [] => ""
  | [(k, v)] => quote k ++ ":" ++ render v
  | (k, v) :: rest => quote k ++ ":" ++ render v ++ "," ++ renderFields rest

end

end Json

end RecordMap
