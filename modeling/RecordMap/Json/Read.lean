import RecordMap.Json.Basic

/-!
# Reading JSON

`Json.parse` reads one document surrounded by optional white space (space, tab, line feed,
carriage return). Numbers must follow the JSON grammar (no leading zeros, a digit on both sides
of a point, an optional signed exponent) and are kept as written; strings may not hold raw
control characters, and `\u` escapes combine surrogate pairs. The reader recurses once per
nested value and per item, with a fuel equal to the length of the text, which every step
consumes at least one character of.
-/

namespace RecordMap

namespace Json

def isSpace (c : Char) : Bool := c == ' ' || c == '\t' || c == '\n' || c == '\r'

/-- The text after leading white space. -/
def skipSpace (cs : List Char) : List Char := cs.dropWhile isSpace

def digitRun (cs : List Char) : List Char × List Char := (cs.takeWhile Char.isDigit, cs.dropWhile Char.isDigit)

/-- Reads a number as its text: sign, integer part, fraction and exponent. -/
def readNumber (cs : List Char) : Option (String × List Char) := do
  let (sign, rest) := match cs with
    | '-' :: r => (['-'], r)
    | _ => ([], cs)
  let (whole, rest) ← match rest with
    | '0' :: r => some (['0'], r)
    | c :: _ => if c.isDigit then some (digitRun rest) else none
    | [] => none
  let (frac, rest) ← match rest with
    | '.' :: r =>
      let (ds, r) := digitRun r
      if ds.isEmpty then none else some ('.' :: ds, r)
    | _ => some ([], rest)
  let (ex, rest) ← match rest with
    | e :: r =>
      if e == 'e' || e == 'E' then
        let (s, r) := match r with
          | '+' :: r' => (['+'], r')
          | '-' :: r' => (['-'], r')
          | _ => ([], r)
        let (ds, r) := digitRun r
        if ds.isEmpty then none else some (e :: s ++ ds, r)
      else some ([], rest)
    | [] => some ([], rest)
  some (String.ofList (sign ++ whole ++ frac ++ ex), rest)

/-- The value of four hexadecimal digits. -/
def hex4 (cs : List Char) : Option (Nat × List Char) :=
  match cs with
  | a :: b :: c :: d :: rest =>
    let v (x : Char) : Option Nat :=
      if x.isDigit then some (x.toNat - 48)
      else if 'a' ≤ x ∧ x ≤ 'f' then some (x.toNat - 87)
      else if 'A' ≤ x ∧ x ≤ 'F' then some (x.toNat - 55)
      else none
    do some ((((← v a) * 16 + (← v b)) * 16 + (← v c)) * 16 + (← v d), rest)
  | _ => none

/-- Reads the rest of a string literal after its opening quote. -/
def readString : Nat → List Char → List Char → Option (String × List Char)
  | 0, _, _ => none
  | _ + 1, _, [] => none
  | fuel + 1, acc, c :: rest =>
    if c == '"' then some (String.ofList acc.reverse, rest)
    else if c.toNat < 0x20 then none
    else if c == '\\' then
      match rest with
      | e :: rest =>
        let simple : Option Char := match e with
          | '"' => some '"'
          | '\\' => some '\\'
          | '/' => some '/'
          | 'b' => some (Char.ofNat 8)
          | 'f' => some (Char.ofNat 12)
          | 'n' => some '\n'
          | 'r' => some '\r'
          | 't' => some '\t'
          | _ => none
        match simple with
        | some ch => readString fuel (ch :: acc) rest
        | none =>
          if e != 'u' then none
          else
            match hex4 rest with
            | none => none
            | some (hi, rest) =>
              if 0xD800 ≤ hi ∧ hi < 0xDC00 then
                match rest with
                | '\\' :: 'u' :: rest =>
                  match hex4 rest with
                  | some (lo, rest) =>
                    if 0xDC00 ≤ lo ∧ lo < 0xE000 then
                      let code := 0x10000 + (hi - 0xD800) * 0x400 + (lo - 0xDC00)
                      readString fuel (Char.ofNat code :: acc) rest
                    else none
                  | none => none
                | _ => none
              else if 0xDC00 ≤ hi ∧ hi < 0xE000 then none
              else readString fuel (Char.ofNat hi :: acc) rest
      | [] => none
    else readString fuel (c :: acc) rest

mutual

/-- Reads one value after optional white space. -/
def readValue : Nat → List Char → Option (Json × List Char)
  | 0, _ => none
  | fuel + 1, cs =>
    match skipSpace cs with
    | 'n' :: 'u' :: 'l' :: 'l' :: rest => some (.null, rest)
    | 't' :: 'r' :: 'u' :: 'e' :: rest => some (.bool true, rest)
    | 'f' :: 'a' :: 'l' :: 's' :: 'e' :: rest => some (.bool false, rest)
    | '"' :: rest => (readString rest.length [] rest).map fun (s, r) => (.str s, r)
    | '[' :: rest =>
      match skipSpace rest with
      | ']' :: r => some (.arr [], r)
      | _ => (readItems fuel [] rest).map fun (items, r) => (.arr items, r)
    | '{' :: rest =>
      match skipSpace rest with
      | '}' :: r => some (.obj [], r)
      | _ => (readFields fuel [] rest).map fun (fields, r) => (.obj fields, r)
    | cs => (readNumber cs).map fun (t, r) => (.number t, r)

/-- Reads the items of an array after its opening bracket, up to the closing one. -/
def readItems : Nat → List Json → List Char → Option (List Json × List Char)
  | 0, _, _ => none
  | fuel + 1, acc, cs =>
    match readValue fuel cs with
    | none => none
    | some (j, rest) =>
      match skipSpace rest with
      | ',' :: r => readItems fuel (j :: acc) r
      | ']' :: r => some ((j :: acc).reverse, r)
      | _ => none

/-- Reads the members of an object after its opening brace, up to the closing one. -/
def readFields : Nat → List (String × Json) → List Char → Option (List (String × Json) × List Char)
  | 0, _, _ => none
  | fuel + 1, acc, cs =>
    match skipSpace cs with
    | '"' :: rest =>
      match readString rest.length [] rest with
      | none => none
      | some (k, rest) =>
        match skipSpace rest with
        | ':' :: rest =>
          match readValue fuel rest with
          | none => none
          | some (v, rest) =>
            match skipSpace rest with
            | ',' :: r => readFields fuel ((k, v) :: acc) r
            | '}' :: r => some (((k, v) :: acc).reverse, r)
            | _ => none
        | _ => none
    | _ => none

end

/-- Reads a whole text as one document. -/
def parse (s : String) : Option Json :=
  let cs := s.toList
  match readValue (cs.length + 1) cs with
  | some (j, rest) => if (skipSpace rest).isEmpty then some j else none
  | none => none

end Json

end RecordMap
