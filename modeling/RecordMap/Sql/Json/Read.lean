import RecordMap.Sql.Json.Node

/-!
# Reading JSON text

`readJsonText` reads JSON text into a `JsonNode`. Besides JSON it takes the JSON5 extensions:
comments and more kinds of blank, single-quoted strings, more escapes and raw control characters
in strings, hex integers, a leading `+`, a point with no digit on one side, `Infinity` and `NaN`
(in any case, also `inf`, `QNaN` and `SNaN`), unquoted object keys and a trailing comma. Text
that uses any of them is marked as not plain JSON.

Reading is a scan over the bytes that stops at a 0 byte as at the end, with the engine's error
position: the place where reading a value failed, or, for some failures, the place where the
last closing bracket, comma or colon was seen. Nesting deeper than 1000 arrays and objects is an
error.
-/

namespace RecordMap.Sql

/-- What scanning at a place found: a value and the place after it, the end of the text, a
failure, or a closing brace, closing bracket, comma or colon. -/
inductive Scan where
  | value (node : JsonNode) (next : Nat)
  | finish
  | fail
  | closeBrace
  | closeBracket
  | comma
  | colon
  deriving Inhabited

/-- The state of a scan: the error position, whether the text is not plain JSON, and the depth
of nesting. -/
structure ScanState where
  err : Nat := 0
  nonstd : Bool := false
  depth : Nat := 0
  deriving Inhabited

/-- The deepest nesting of arrays and objects that text may have. -/
def jsonMaxDepth : Nat := 1000

/-- The byte at a place, 0 past the end. -/
def jsonByte (z : Array UInt8) (i : Nat) : UInt8 := z.getD i 0

/-- Whether a byte is a JSON blank: a space, a tab, a line feed or a carriage return. -/
def isJsonSpace (c : UInt8) : Bool := c == 32 || c == 9 || c == 10 || c == 13

/-- Whether a byte is an ASCII letter or digit. -/
def isAlnumByte (c : UInt8) : Bool :=
  isDigitByte c || (65 ≤ c && c ≤ 90) || (97 ≤ c && c ≤ 122)

/-- Whether a byte may start an unquoted key: a letter, `_`, `$`, or a byte of a multi-byte
character. -/
def isKeyStart (c : UInt8) : Bool :=
  (65 ≤ c && c ≤ 90) || (97 ≤ c && c ≤ 122) || c == 95 || c == 36 || c ≥ 0x80

/-- Whether a byte may continue an unquoted key. -/
def isKeyByte (c : UInt8) : Bool := isKeyStart c || isDigitByte c

/-- The place after the JSON blanks from a place on. -/
def skipJsonSpaces (z : Array UInt8) (i : Nat) : Nat :=
  go i (z.size + 1)
where
  go (i : Nat) : Nat → Nat
    | 0 => i
    | fuel + 1 => if isJsonSpace (jsonByte z i) then go (i + 1) fuel else i

/-- The number of bytes of JSON5 blanks at a place: blanks, vertical tabs and form feeds,
comments, and the Unicode spaces, line and paragraph separators and byte order mark. -/
def json5Blank (z : Array UInt8) (start : Nat) : Nat :=
  go start (z.size + 1) - start
where
  byte (k : Nat) : UInt8 := jsonByte z k
  /-- The place after a block comment that opens at `k`, if it closes. -/
  blockEnd (k : Nat) : Option Nat :=
    ((List.range (z.size + 1)).map (· + k + 3)).find? (fun j => byte j == 0 || (byte j == 47 && byte (j - 1) == 42))
      |>.bind fun j => if byte j == 0 then none else some (j + 1)
  /-- The place after a line comment that opens at `k`. -/
  lineEnd (k : Nat) : Nat :=
    let stop := ((List.range (z.size + 1)).map (· + k + 2)).find? fun j =>
      byte j == 0 || byte j == 10 || byte j == 13 ||
        (byte j == 0xe2 && byte (j + 1) == 0x80 && (byte (j + 2) == 0xa8 || byte (j + 2) == 0xa9))
    match stop with
    | some j =>
      if byte j == 0xe2 then j + 3
      else if byte j == 0 then j else j + 1
    | none => z.size
  go (n : Nat) : Nat → Nat
    | 0 => n
    | fuel + 1 =>
      let c := byte n
      if c == 9 || c == 10 || c == 11 || c == 12 || c == 13 || c == 32 then go (n + 1) fuel
      else if c == 47 then
        if byte (n + 1) == 42 && byte (n + 2) != 0 then
          match blockEnd n with
          | some j => go j fuel
          | none => n
        else if byte (n + 1) == 47 then go (lineEnd n) fuel
        else n
      else if c == 0xc2 then (if byte (n + 1) == 0xa0 then go (n + 2) fuel else n)
      else if c == 0xe1 then (if byte (n + 1) == 0x9a && byte (n + 2) == 0x80 then go (n + 3) fuel else n)
      else if c == 0xe2 then
        if byte (n + 1) == 0x80 then
          let d := byte (n + 2)
          if d < 0x80 then n
          else if d ≤ 0x8a || d == 0xa8 || d == 0xa9 || d == 0xaf then go (n + 3) fuel
          else n
        else if byte (n + 1) == 0x81 && byte (n + 2) == 0x9f then go (n + 3) fuel
        else n
      else if c == 0xe3 then (if byte (n + 1) == 0x80 && byte (n + 2) == 0x80 then go (n + 3) fuel else n)
      else if c == 0xef then (if byte (n + 1) == 0xbb && byte (n + 2) == 0xbf then go (n + 3) fuel else n)
      else n

/-- Whether four hex digits stand at a place. -/
def hexAt (z : Array UInt8) (i count : Nat) : Bool :=
  (List.range count).all fun k => isHexByte (jsonByte z (i + k))

/-- The bytes from one place up to another. -/
def slice (z : Array UInt8) (i j : Nat) : Bytes := (z.extract i j).toList

/-- Whether the bytes at a place spell a word, up to ASCII case. -/
def wordAt (z : Array UInt8) (i : Nat) (w : String) : Bool :=
  (bytesOf w).zipIdx.all fun (c, k) => lowerByte (jsonByte z (i + k)) == lowerByte c

/-- Whether the bytes at a place spell a word exactly. -/
def exactAt (z : Array UInt8) (i : Nat) (w : String) : Bool :=
  (bytesOf w).zipIdx.all fun (c, k) => jsonByte z (i + k) == c

/-- Scans a string whose opening quote is at `i`: the place of its closing quote and its form,
or the place of the failure. -/
def scanString (z : Array UInt8) (i : Nat) (st : ScanState) : Option (Nat × StringForm) × ScanState :=
  go (i + 1) .plain st (z.size + 2)
where
  go (j : Nat) (form : StringForm) (st : ScanState) : Nat → Option (Nat × StringForm) × ScanState
    | 0 => (none, { st with err := j })
    | fuel + 1 =>
      let c := jsonByte z j
      let delim := jsonByte z i
      if jsonByteOk c then go (j + 1) form st fuel
      else if c == delim then (some (j, form), st)
      else if c == 92 then
        let e := jsonByte z (j + 1)
        if e == 34 || e == 92 || e == 47 || e == 98 || e == 102 || e == 110 || e == 114 || e == 116 ||
            (e == 117 && hexAt z (j + 2) 4) then
          go (j + 2) (if form == .plain then .escaped else form) st fuel
        else if e == 39 || e == 48 || e == 118 || e == 10 ||
            (e == 0xe2 && jsonByte z (j + 2) == 0x80 &&
              (jsonByte z (j + 3) == 0xa8 || jsonByte z (j + 3) == 0xa9)) ||
            (e == 120 && hexAt z (j + 2) 2) then
          go (j + 2) .loose { st with nonstd := true } fuel
        else if e == 13 then
          let k := if jsonByte z (j + 2) == 10 then j + 3 else j + 2
          go k .loose { st with nonstd := true } fuel
        else (none, { st with err := j + 1 })
      else if c < 32 then
        if c == 0 then (none, { st with err := j })
        else go (j + 1) .loose { st with nonstd := true } fuel
      else if c == 34 then go (j + 1) .loose st fuel
      else go (j + 1) form st fuel

/-- The digits of a hex integer from a place: the place after them. -/
def hexEnd (z : Array UInt8) (j : Nat) : Nat :=
  ((List.range (z.size + 1)).map (· + j)).find? (fun k => !isHexByte (jsonByte z k)) |>.getD (z.size + j)

/-- Scans the rest of a number whose first byte is at `i`, from `j` on, knowing whether it is
JSON5 (bit 1) and a real (bit 2) so far. -/
def scanNumberTail (z : Array UInt8) (i : Nat) (t : Nat) (st : ScanState) : Scan × ScanState :=
  go (i + 1) t false st (z.size + 2)
where
  finish (j t : Nat) (st : ScanState) : Scan × ScanState :=
    let start := if jsonByte z i == 43 then i + 1 else i
    let form : NumberForm := match t with
      | 0 => .integer
      | 1 => .hex
      | 2 => .real
      | _ => .loose
    (.value (.number form (slice z start j)) j, st)
  /-- Checks that a number does not end in a point with no digit before it. -/
  pointCheck (j : Nat) (t : Nat) (st : ScanState) : Option (Nat × ScanState) :=
    if jsonByte z (j - 1) < 48 then
      if jsonByte z (j - 1) == 46 && j ≥ i + 2 && isDigitByte (jsonByte z (j - 2)) then
        some (t ||| 1, { st with nonstd := true })
      else none
    else some (t, st)
  go (j : Nat) (t : Nat) (seenE : Bool) (st : ScanState) : Nat → Scan × ScanState
    | 0 => (.fail, { st with err := j })
    | fuel + 1 =>
      let c := jsonByte z j
      if isDigitByte c then go (j + 1) t seenE st fuel
      else if c == 46 then
        if t &&& 2 != 0 then (.fail, { st with err := j })
        else go (j + 1) (t ||| 2) seenE st fuel
      else if c == 101 || c == 69 then
        match pointCheck j t st with
        | none => (.fail, { st with err := j })
        | some (t, st) =>
          if seenE then (.fail, { st with err := j })
          else
            let j' := if jsonByte z (j + 1) == 43 || jsonByte z (j + 1) == 45 then j + 1 else j
            let d := jsonByte z (j' + 1)
            if d < 48 || d > 57 then (.fail, { st with err := j' })
            else go (j' + 1) (t ||| 2) true st fuel
      else
        match pointCheck j t st with
        | none => (.fail, { st with err := j })
        | some (t, st) => finish j t st

/-- Scans a number, or `±Infinity`, whose first byte is at `i`. -/
def scanNumber (z : Array UInt8) (i : Nat) (st : ScanState) : Scan × ScanState :=
  let c := jsonByte z i
  let c1 := jsonByte z (i + 1)
  let hexFrom (start : Nat) (st : ScanState) : Scan × ScanState :=
    let j := hexEnd z start
    let begin := if c == 43 then i + 1 else i
    (.value (.number .hex (slice z begin j)) j, { st with nonstd := true })
  if c == 46 then
    if isDigitByte c1 then scanNumberTail z i 3 { st with nonstd := true }
    else (.fail, { st with err := i })
  else if c == 48 then
    if (c1 == 120 || c1 == 88) && isHexByte (jsonByte z (i + 2)) then hexFrom (i + 3) st
    else if isDigitByte c1 then (.fail, { st with err := i + 1 })
    else scanNumberTail z i 0 st
  else if c == 45 || c == 43 then
    let st := if c == 43 then { st with nonstd := true } else st
    if !isDigitByte c1 then
      if (c1 == 73 || c1 == 105) && wordAt z (i + 1) "inf" then
        let node := JsonNode.number .real (bytesOf (if c == 45 then "-9e999" else "9e999"))
        (.value node (i + (if wordAt z (i + 4) "inity" then 9 else 4)), { st with nonstd := true })
      else if c1 == 46 then scanNumberTail z i 1 { st with nonstd := true }
      else (.fail, { st with err := i })
    else if c1 == 48 then
      let c2 := jsonByte z (i + 2)
      if isDigitByte c2 then (.fail, { st with err := i + 1 })
      else if (c2 == 120 || c2 == 88) && isHexByte (jsonByte z (i + 3)) then hexFrom (i + 4) st
      else scanNumberTail z i 0 st
    else scanNumberTail z i 0 st
  else scanNumberTail z i 0 st

/-- The names that read as infinity or as null: the name and whether it is infinity. -/
def specialNames : List (String × Bool) :=
  [("inf", true), ("infinity", true), ("nan", false), ("qnan", false), ("snan", false)]

/-- Scans `NaN`, `Infinity` and their kin at a place. -/
def scanSpecial (z : Array UInt8) (i : Nat) (st : ScanState) : Scan × ScanState :=
  match specialNames.find? fun (w, _) => wordAt z i w && !isAlnumByte (jsonByte z (i + w.length)) with
  | some (w, inf) =>
    let node := if inf then JsonNode.number .real (bytesOf "9e999") else JsonNode.null
    (.value node (i + w.length), { st with nonstd := true })
  | none => (.fail, { st with err := i })

mutual

/-- Scans one value at a place, after any blanks. -/
def scanValue (z : Array UInt8) : Nat → Nat → ScanState → Scan × ScanState
  | 0, i, st => (.fail, { st with err := i })
  | fuel + 1, i, st =>
    let c := jsonByte z i
    if c == 123 then scanObject z fuel i st
    else if c == 91 then scanArray z fuel i st
    else if c == 34 || c == 39 then
      let st := if c == 39 then { st with nonstd := true } else st
      match scanString z i st with
      | (some (j, form), st) => (.value (.string form (slice z (i + 1) j)) (j + 1), st)
      | (none, st) => (.fail, st)
    else if c == 116 then
      if exactAt z i "true" && !isAlnumByte (jsonByte z (i + 4)) then (.value (.bool true) (i + 4), st)
      else (.fail, { st with err := i })
    else if c == 102 then
      if exactAt z i "false" && !isAlnumByte (jsonByte z (i + 5)) then (.value (.bool false) (i + 5), st)
      else (.fail, { st with err := i })
    else if c == 110 && exactAt z i "null" && !isAlnumByte (jsonByte z (i + 4)) then (.value .null (i + 4), st)
    else if c == 43 || c == 46 || c == 45 || isDigitByte c then scanNumber z i st
    else if c == 125 then (.closeBrace, { st with err := i })
    else if c == 93 then (.closeBracket, { st with err := i })
    else if c == 44 then (.comma, { st with err := i })
    else if c == 58 then (.colon, { st with err := i })
    else if c == 0 then (.finish, st)
    else if isJsonSpace c then scanValue z fuel (skipJsonSpaces z i) st
    else if c == 11 || c == 12 || c == 47 || c == 0xc2 || c == 0xe1 || c == 0xe2 || c == 0xe3 || c == 0xef then
      let j := json5Blank z i
      if j > 0 then scanValue z fuel (i + j) { st with nonstd := true }
      else (.fail, { st with err := i })
    else scanSpecial z i st

/-- Scans an array whose opening bracket is at `i`. -/
def scanArray (z : Array UInt8) : Nat → Nat → ScanState → Scan × ScanState
  | 0, i, st => (.fail, { st with err := i })
  | fuel + 1, i, st =>
    if st.depth + 1 > jsonMaxDepth then (.fail, { st with err := i, depth := st.depth + 1 })
    else
      match scanItems z fuel (i + 1) [] { st with depth := st.depth + 1 } with
      | (some (items, j), st) => (.value (.array items) (j + 1), { st with depth := st.depth - 1 })
      | (none, st) => (.fail, st)

/-- Scans array items from a place on: the items and the place of the closing bracket. -/
def scanItems (z : Array UInt8) : Nat → Nat → List JsonNode → ScanState →
    Option (List JsonNode × Nat) × ScanState
  | 0, j, _, st => (none, { st with err := j })
  | fuel + 1, j, acc, st =>
    match scanValue z fuel j st with
    | (.value node x, st) =>
      let acc := acc ++ [node]
      let c := jsonByte z x
      if c == 44 then scanItems z fuel (x + 1) acc st
      else if c == 93 then (some (acc, x), st)
      else
        let x' := if isJsonSpace c then skipJsonSpaces z x else x
        let c' := jsonByte z x'
        if isJsonSpace c && c' == 44 then scanItems z fuel (x' + 1) acc st
        else if isJsonSpace c && c' == 93 then (some (acc, x'), st)
        else
          match scanValue z fuel x' st with
          | (.comma, st) => scanItems z fuel (st.err + 1) acc st
          | (.closeBracket, st) => (some (acc, st.err), st)
          | (_, st) => (none, { st with err := x' })
    | (.closeBracket, st) =>
      let st := if acc.isEmpty then st else { st with nonstd := true }
      (some (acc, st.err), st)
    | (.fail, st) => (none, st)
    | (_, st) => (none, { st with err := j })

/-- Scans an object whose opening brace is at `i`. -/
def scanObject (z : Array UInt8) : Nat → Nat → ScanState → Scan × ScanState
  | 0, i, st => (.fail, { st with err := i })
  | fuel + 1, i, st =>
    if st.depth + 1 > jsonMaxDepth then (.fail, { st with err := i, depth := st.depth + 1 })
    else
      match scanMembers z fuel (i + 1) [] { st with depth := st.depth + 1 } with
      | (some (members, j), st) => (.value (.object members) (j + 1), { st with depth := st.depth - 1 })
      | (none, st) => (.fail, st)

/-- Scans object members from a place on: the members and the place of the closing brace. -/
def scanMembers (z : Array UInt8) : Nat → Nat → List (JsonKey × JsonNode) → ScanState →
    Option (List (JsonKey × JsonNode) × Nat) × ScanState
  | 0, j, _, st => (none, { st with err := j })
  | fuel + 1, j, acc, st =>
    -- the key: a string or an unquoted name (some), a closing brace (none), or a failure
    let keyScan : Option (Option (JsonNode × Nat × Nat)) × ScanState :=
      match scanValue z fuel j st with
      | (.value node x, st) => (some (some (node, x, j)), st)
      | (.closeBrace, st) => (some none, st)
      | (other, st) =>
        let j' := j + json5Blank z j
        let c := jsonByte z j'
        let escapeAt (k : Nat) : Bool := jsonByte z (k + 1) == 117 && hexAt z (k + 2) 4
        if isKeyStart c || (c == 92 && escapeAt j') then
          let rec grab (k : Nat) (escaped : Bool) : Nat → Nat × Bool
            | 0 => (k, escaped)
            | n + 1 =>
              let d := jsonByte z k
              if isKeyByte d && json5Blank z k == 0 then grab (k + 1) escaped n
              else if d == 92 && escapeAt k then grab (k + 1) true n
              else (k, escaped)
          let (k, escaped) := grab (j' + 1) (c == 92) (z.size + 1)
          let form : StringForm := if escaped then .escaped else .plain
          (some (some (.string form (slice z j' k), k, j')), { st with nonstd := true })
        else
          match other with
          | .fail => (none, st)
          | _ => (none, { st with err := j' })
    match keyScan with
    | (none, st) => (none, st)
    | (some none, st) =>
      let st := if acc.isEmpty then st else { st with nonstd := true }
      (some (acc, st.err), st)
    | (some (some (keyNode, x, keyAt)), st) =>
      match keyNode with
      | .string form text =>
        -- the colon
        let afterColon : Option Nat × ScanState :=
          if jsonByte z x == 58 then (some (x + 1), st)
          else
            let x' := if isJsonSpace (jsonByte z x) then skipJsonSpaces z x else x
            if isJsonSpace (jsonByte z x) && jsonByte z x' == 58 then (some (x' + 1), st)
            else
              match scanValue z fuel x' st with
              | (.colon, st) => (some (st.err + 1), st)
              | (.fail, st) => (none, st)
              | (_, st) => (none, { st with err := x' })
        match afterColon with
        | (none, st) => (none, st)
        | (some v, st) =>
          match scanValue z fuel v st with
          | (.value node y, st) =>
            let acc := acc ++ [(⟨form, text⟩, node)]
            let c := jsonByte z y
            if c == 44 then scanMembers z fuel (y + 1) acc st
            else if c == 125 then (some (acc, y), st)
            else
              let y' := if isJsonSpace c then skipJsonSpaces z y else y
              let c' := jsonByte z y'
              if isJsonSpace c && c' == 44 then scanMembers z fuel (y' + 1) acc st
              else if isJsonSpace c && c' == 125 then (some (acc, y'), st)
              else
                match scanValue z fuel y' st with
                | (.comma, st) => scanMembers z fuel (st.err + 1) acc st
                | (.closeBrace, st) => (some (acc, st.err), st)
                | (_, st) => (none, { st with err := y' })
          | (.fail, st) => (none, st)
          | (_, st) => (none, { st with err := v })
      | _ => (none, { st with err := keyAt })

end

/-- The outcome of reading JSON text: the value and whether it used JSON5, or the place of the
error. -/
inductive JsonReading where
  | ok (node : JsonNode) (nonstd : Bool)
  | error (place : Nat)
  deriving Inhabited

/-- Reads JSON text: one value, with only blanks after it. -/
def readJsonText (b : Bytes) : JsonReading :=
  let z := b.toArray
  match scanValue z (4 * (z.size + 2)) 0 {} with
  | (.value node i, st) =>
    let i := skipJsonSpaces z i
    if jsonByte z i == 0 then .ok node st.nonstd
    else
      let i := i + json5Blank z i
      if jsonByte z i == 0 then .ok node true else .error st.err
  | (_, st) => .error st.err

end RecordMap.Sql
