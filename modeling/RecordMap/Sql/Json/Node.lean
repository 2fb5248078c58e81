import RecordMap.Sql.Bytes

/-!
# JSON values as the engine keeps them

A `JsonNode` is a JSON value in the form the engine's binary JSON stores it: numbers and strings
keep the bytes they were written with, together with how they were written (`NumberForm`,
`StringForm`), and objects keep their members in order, repeated keys included.

* `JsonNode.encode` writes the binary form: each node is a header byte, whose low four bits
  give the kind and whose high four bits give the payload size (sizes over 11 follow the header
  in 1, 2 or 4 bytes, big-endian), then the payload. Headers are as short as the size allows.
* `JsonNode.decode?` reads the binary form back; it fails on any header or size that does not
  fit.
* `JsonNode.render?` writes JSON text: numbers and strings in their canonical spelling, a hex
  integer in decimal, a number without digits beside its point with a `0` there, SQL text with
  its quotes, backslashes and control characters escaped. It fails on a payload that does not
  spell its kind.
-/

namespace RecordMap.Sql

/-- How a number was written. -/
inductive NumberForm where
  /-- A decimal integer. -/
  | integer
  /-- A hexadecimal integer, `0x` after an optional sign. -/
  | hex
  /-- A number with a point or an exponent. -/
  | real
  /-- A number with a point that has no digit before or after it. -/
  | loose
  deriving Repr, DecidableEq, Inhabited

/-- How a string's bytes are stored. -/
inductive StringForm where
  /-- Bytes with no escapes. -/
  | plain
  /-- Bytes with JSON escapes. -/
  | escaped
  /-- Bytes with JSON5 escapes or characters. -/
  | loose
  /-- SQL text, escaped only when written out. -/
  | raw
  deriving Repr, DecidableEq, Inhabited

/-- An object key: a string and how it is stored. -/
structure JsonKey where
  form : StringForm
  text : Bytes
  deriving Repr, Inhabited

/-- A JSON value with the spelling of its numbers and strings. -/
inductive JsonNode where
  | null
  | bool (b : Bool)
  | number (form : NumberForm) (text : Bytes)
  | string (form : StringForm) (text : Bytes)
  | array (items : List JsonNode)
  | object (members : List (JsonKey × JsonNode))
  deriving Repr, Inhabited

/-! ## Kinds and headers -/

/-- The kind code of a number form. -/
def NumberForm.code : NumberForm → Nat
  | .integer => 3
  | .hex => 4
  | .real => 5
  | .loose => 6

/-- The kind code of a string form. -/
def StringForm.code : StringForm → Nat
  | .plain => 7
  | .escaped => 8
  | .loose => 9
  | .raw => 10

/-- The string form of a kind code. -/
def StringForm.ofCode? : Nat → Option StringForm
  | 7 => some .plain
  | 8 => some .escaped
  | 9 => some .loose
  | 10 => some .raw
  | _ => none

/-- Whether the stored bytes of a string form hold no escapes. -/
def StringForm.unescaped : StringForm → Bool
  | .plain | .raw => true
  | _ => false

/-- The kind code of a node: 0 null, 1 true, 2 false, 3 to 6 numbers, 7 to 10 strings, 11 array,
12 object. -/
def JsonNode.code : JsonNode → Nat
  | .null => 0
  | .bool true => 1
  | .bool false => 2
  | .number f _ => f.code
  | .string f _ => f.code
  | .array _ => 11
  | .object _ => 12

/-- The big-endian bytes of a number, `count` of them. -/
def bigEndian (count n : Nat) : Bytes :=
  (List.range count).reverse.map fun k => (n / Nat.pow 256 k % 256).toUInt8

/-- The header of a node of a kind with a payload of `size` bytes. -/
def jsonHeader (code size : Nat) : Bytes :=
  if size ≤ 11 then [(code + 16 * size).toUInt8]
  else if size ≤ 0xff then [(code + 0xc0).toUInt8] ++ bigEndian 1 size
  else if size ≤ 0xffff then [(code + 0xd0).toUInt8] ++ bigEndian 2 size
  else [(code + 0xe0).toUInt8] ++ bigEndian 4 size

/-- A node of a kind with its payload. -/
def jsonChunk (code : Nat) (payload : Bytes) : Bytes := jsonHeader code payload.length ++ payload

mutual

/-- The binary form of a node. -/
def JsonNode.encode : JsonNode → Bytes
  | .null => [0]
  | .bool true => [1]
  | .bool false => [2]
  | .number f t => jsonChunk f.code t
  | .string f t => jsonChunk f.code t
  | .array items => jsonChunk 11 (JsonNode.encodeItems items)
  | .object members => jsonChunk 12 (JsonNode.encodeMembers members)

/-- The binary forms of array items, one after another. -/
def JsonNode.encodeItems : List JsonNode → Bytes
  | [] => []
  | x :: xs => x.encode ++ JsonNode.encodeItems xs

/-- The binary forms of object members, each key before its value. -/
def JsonNode.encodeMembers : List (JsonKey × JsonNode) → Bytes
  | [] => []
  | (k, v) :: rest => jsonChunk k.form.code k.text ++ v.encode ++ JsonNode.encodeMembers rest

end

/-- The header at the start of some bytes: its kind code, its length and the payload size, when
the bytes hold the size it announces. A size in 8 bytes must fit in the low four. -/
def readHeader (b : Bytes) : Option (Nat × Nat × Nat) :=
  match b with
  | [] => none
  | h :: rest =>
    let code := h.toNat % 16
    let tag := h.toNat / 16
    let num (bs : Bytes) : Nat := bs.foldl (fun a x => 256 * a + x.toNat) 0
    let found : Option (Nat × Nat) :=
      if tag ≤ 11 then some (1, tag)
      else if tag == 12 then (if rest.length ≥ 1 then some (2, num (rest.take 1)) else none)
      else if tag == 13 then (if rest.length ≥ 2 then some (3, num (rest.take 2)) else none)
      else if tag == 14 then (if rest.length ≥ 4 then some (5, num (rest.take 4)) else none)
      else if rest.length ≥ 8 && (rest.take 4).all (· == 0) then some (9, num ((rest.drop 4).take 4))
      else none
    match found with
    | some (n, size) => if n + size ≤ b.length then some (code, n, size) else none
    | none => none

/-- Whether some bytes have the outline of one binary JSON value: a header of a known kind whose
size covers the bytes exactly, with no payload for null, true and false. -/
def looksLikeJsonb (b : Bytes) : Bool :=
  match b, readHeader b with
  | h :: _, some (code, n, size) =>
    h.toNat % 16 ≤ 12 && n + size == b.length && (code > 2 || size == 0)
  | _, _ => false

/-- Reads binary JSON values one after another until the bytes end; `fuel` bounds the depth and
count of nodes. -/
def decodeSeq : Nat → Bytes → Option (List JsonNode)
  | 0, _ => none
  | _ + 1, [] => some []
  | fuel + 1, b => do
    let (code, n, size) ← readHeader b
    let payload := (b.drop n).take size
    let rest := b.drop (n + size)
    let node ← match code with
      | 0 => if size == 0 then some JsonNode.null else none
      | 1 => if size == 0 then some (JsonNode.bool true) else none
      | 2 => if size == 0 then some (JsonNode.bool false) else none
      | 3 => if size == 0 then none else some (JsonNode.number .integer payload)
      | 4 => if size == 0 then none else some (JsonNode.number .hex payload)
      | 5 => if size == 0 then none else some (JsonNode.number .real payload)
      | 6 => if size == 0 then none else some (JsonNode.number .loose payload)
      | 11 => do
        let items ← decodeSeq fuel payload
        some (JsonNode.array items)
      | 12 => do
        let parts ← decodeSeq fuel payload
        let members ← pairUp parts
        some (JsonNode.object members)
      | c =>
        match StringForm.ofCode? c with
        | some f => some (JsonNode.string f payload)
        | none => none
    let more ← decodeSeq fuel rest
    some (node :: more)
where
  /-- Pairs each key with the value after it. -/
  pairUp : List JsonNode → Option (List (JsonKey × JsonNode))
    | [] => some []
    | .string f t :: v :: rest => do
      let tail ← pairUp rest
      some ((⟨f, t⟩, v) :: tail)
    | _ => none

/-- The value whose binary form is the bytes, when they are exactly one well-formed value. -/
def JsonNode.decode? (b : Bytes) : Option JsonNode :=
  match decodeSeq (b.length + 1) b with
  | some [node] => some node
  | _ => none

/-! ## Writing text -/

/-- The hex digit of a value below 16, in lower case. -/
def hexDigit (n : Nat) : UInt8 := ("0123456789abcdef".toUTF8.toList.getD n 48)

/-- A control character as a JSON escape: the short form for backspace, tab, line feed, form feed
and carriage return, else `\u00XX`. -/
def controlEscape (c : UInt8) : Bytes :=
  match c.toNat with
  | 8 => [92, 98]
  | 9 => [92, 116]
  | 10 => [92, 110]
  | 12 => [92, 102]
  | 13 => [92, 114]
  | n => [92, 117, 48, 48, hexDigit (n / 16), hexDigit (n % 16)]

/-- Whether a byte stands for itself inside a JSON string: not a control character, a double
quote, a single quote or a backslash. -/
def jsonByteOk (c : UInt8) : Bool := c ≥ 32 && c != 34 && c != 39 && c != 92

/-- SQL text as a JSON string: in double quotes, with quotes and backslashes escaped and
control characters written as escapes. -/
def quoteJson (b : Bytes) : Bytes :=
  [34] ++ b.flatMap (fun c =>
    if c == 34 || c == 92 then [92, c]
    else if c < 32 then controlEscape c
    else [c]) ++ [34]

/-- Whether a byte is a hex digit. -/
def isHexByte (b : UInt8) : Bool :=
  isDigitByte b || (97 ≤ b && b ≤ 102) || (65 ≤ b && b ≤ 70)

/-- The value of a hex digit. -/
def hexValue (b : UInt8) : Nat :=
  if isDigitByte b then b.toNat - 48 else if 97 ≤ b then b.toNat - 87 else b.toNat - 55

/-- A hex integer's text in decimal: `0x` after an optional sign, the sign kept when it is a
minus; past 60 bits, `9.0e999`. Fails on a byte that is not a hex digit. -/
def hexToDecimal (t : Bytes) : Option Bytes :=
  let (sign, rest) : Bytes × Bytes := match t with
    | 45 :: r => ([45], r)
    | 43 :: r => ([], r)
    | r => ([], r)
  let digits := rest.drop 2
  let step (acc : Option (Nat × Bool)) (c : UInt8) : Option (Nat × Bool) := do
    let (u, overflow) ← acc
    if !isHexByte c then none
    else if u / Nat.pow 2 60 != 0 then some (u, true)
    else some (u * 16 + hexValue c, overflow)
  match digits.foldl step (some (0, false)) with
  | some (u, overflow) => some (sign ++ bytesOf (if overflow then "9.0e999" else toString u))
  | none => none

/-- A number whose point has no digit beside it, with a `0` put there. -/
def looseToDecimal (t : Bytes) : Bytes :=
  let (sign, rest) : Bytes × Bytes := match t with
    | 45 :: r => ([45], r)
    | r => ([], r)
  let lead : Bytes := if rest.head? == some 46 then [48] else []
  let rec go : Bytes → Bytes
    | [] => []
    | c :: more =>
      if c == 46 && (match more with
          | d :: _ => !isDigitByte d
          | [] => true) then c :: 48 :: go more
      else c :: go more
  sign ++ lead ++ go rest

/-- The bytes of a JSON5 string written with JSON escapes only: a single quote unescaped,
`\x` as `\u00`, `\0` as `\u0000`, `\v` as `\u0009`, line continuations dropped, double quotes
and control characters escaped. Fails on an escape cut short. -/
def looseToEscaped (b : Bytes) : Option Bytes :=
  go b (b.length + 1) []
where
  go : Bytes → Nat → Bytes → Option Bytes
    | _, 0, acc => some acc
    | [], _ + 1, acc => some acc
    | c :: rest, fuel + 1, acc =>
      if jsonByteOk c || c == 39 then go rest fuel (acc ++ [c])
      else if c == 34 then go rest fuel (acc ++ [92, 34])
      else if c < 32 then go rest fuel (acc ++ controlEscape c)
      else
        match rest with
        | [] => none
        | e :: more =>
          if e == 39 then go more fuel (acc ++ [39])
          else if e == 118 then go more fuel (acc ++ bytesOf "\\u0009")
          else if e == 120 then
            match more with
            | h1 :: h2 :: after => go after fuel (acc ++ bytesOf "\\u00" ++ [h1, h2])
            | _ => none
          else if e == 48 then go more fuel (acc ++ bytesOf "\\u0000")
          else if e == 13 then
            match more with
            | 10 :: after => go after fuel acc
            | _ => go more fuel acc
          else if e == 10 then go more fuel acc
          else if e == 0xe2 then
            match more with
            | 0x80 :: x :: after => if x == 0xa8 || x == 0xa9 then go after fuel acc else none
            | _ => none
          else go more fuel (acc ++ [c, e])

/-- The JSON text of a string, or none when its bytes do not spell its form. -/
def renderString : StringForm → Bytes → Option Bytes
  | .plain, t | .escaped, t => some ([34] ++ t ++ [34])
  | .raw, t => some (quoteJson t)
  | .loose, t => (looseToEscaped t).map fun e => [34] ++ e ++ [34]

mutual

/-- The JSON text of a node, or none when a payload does not spell its kind. -/
def JsonNode.render? : JsonNode → Option Bytes
  | .null => some (bytesOf "null")
  | .bool true => some (bytesOf "true")
  | .bool false => some (bytesOf "false")
  | .number .integer t | .number .real t => if t.isEmpty then none else some t
  | .number .hex t => hexToDecimal t
  | .number .loose t => some (looseToDecimal t)
  | .string f t => renderString f t
  | .array items => do
    let parts ← JsonNode.renderItems items
    some ([91] ++ parts ++ [93])
  | .object members => do
    let parts ← JsonNode.renderMembers members
    some ([123] ++ parts ++ [125])

/-- Array items as JSON text, separated by commas. -/
def JsonNode.renderItems : List JsonNode → Option Bytes
  | [] => some []
  | [x] => x.render?
  | x :: xs => do
    let a ← x.render?
    let b ← JsonNode.renderItems xs
    some (a ++ [44] ++ b)

/-- Object members as JSON text, `key:value`, separated by commas. -/
def JsonNode.renderMembers : List (JsonKey × JsonNode) → Option Bytes
  | [] => some []
  | [(k, v)] => do
    let a ← renderString k.form k.text
    let b ← v.render?
    some (a ++ [58] ++ b)
  | (k, v) :: rest => do
    let a ← renderString k.form k.text
    let b ← v.render?
    let c ← JsonNode.renderMembers rest
    some (a ++ [58] ++ b ++ [44] ++ c)

end

/-! ## Reading escapes -/

/-- The value of four hex digits. -/
def hex4 (b : Bytes) : Nat := (b.take 4).foldl (fun a c => 16 * a + hexValue c) 0

/-- The code point that stands for a character that cannot be read. -/
def invalidCodePoint : Nat := 0x99999

/-- The code point at the start of some bytes, read as UTF-8 without checks: at most four bytes,
each continuation byte adding six bits. Returns the code point and the bytes used. -/
def readCodePoint (b : Bytes) : Nat × Nat :=
  match b with
  | [] => (0, 0)
  | c :: rest =>
    if c < 0xc0 then (c.toNat, 1)
    else
      let lead : Nat :=
        if c < 0xe0 then c.toNat - 0xc0 else if c < 0xf0 then c.toNat - 0xe0
        else if c < 0xf8 then c.toNat - 0xf0 else if c < 0xfc then c.toNat - 0xf8 else c.toNat - 0xfc
      let cont := (rest.take 3).takeWhile fun x => x &&& 0xc0 == 0x80
      (cont.foldl (fun a x => a * 64 + (x.toNat % 64)) lead, 1 + cont.length)

/-- The bytes a line continuation takes at the start of an escape: backslashes each followed by a
line break or a line or paragraph separator. -/
def continuationLength (b : Bytes) : Nat :=
  go b (b.length + 1) 0
where
  go : Bytes → Nat → Nat → Nat
    | _, 0, n => n
    | 92 :: 10 :: rest, fuel + 1, n => go rest fuel (n + 2)
    | 92 :: 13 :: 10 :: rest, fuel + 1, n => go rest fuel (n + 3)
    | 92 :: 13 :: rest, fuel + 1, n => go rest fuel (n + 2)
    | 92 :: 0xe2 :: 0x80 :: x :: rest, fuel + 1, n =>
      if x == 0xa8 || x == 0xa9 then go rest fuel (n + 4) else n
    | _, _ + 1, n => n

/-- Reads one escape at the start of some bytes, which begin with a backslash: the code point it
stands for and the bytes it takes. -/
def readEscape (b : Bytes) : Nat → Nat × Nat
  | 0 => (invalidCodePoint, b.length)
  | fuel + 1 =>
    let n := b.length
    if n < 2 then (invalidCodePoint, n)
    else
      let e := b.getD 1 0
      if e == 117 then
        if n < 6 then (invalidCodePoint, n)
        else
          let v := hex4 (b.drop 2)
          let lo := hex4 (b.drop 8)
          if v / 1024 == 0xd800 / 1024 && n ≥ 12 && b.getD 6 0 == 92 && b.getD 7 0 == 117 &&
              lo / 1024 == 0xdc00 / 1024 then
            ((v % 1024) * 1024 + (lo % 1024) + 0x10000, 12)
          else (v, 6)
      else if e == 98 then (8, 2)
      else if e == 102 then (12, 2)
      else if e == 110 then (10, 2)
      else if e == 114 then (13, 2)
      else if e == 116 then (9, 2)
      else if e == 118 then (11, 2)
      else if e == 48 then (0, 2)
      else if e == 39 || e == 34 || e == 47 || e == 92 then (e.toNat, 2)
      else if e == 120 then
        if n < 4 then (invalidCodePoint, n)
        else (hexValue (b.getD 2 0) * 16 + hexValue (b.getD 3 0), 4)
      else if e == 0xe2 || e == 13 || e == 10 then
        let skip := continuationLength b
        if skip == 0 then (invalidCodePoint, n)
        else if skip == n then (0, n)
        else if b.getD skip 0 == 92 then
          let (v, k) := readEscape (b.drop skip) fuel
          (v, skip + k)
        else
          let (v, k) := readCodePoint (b.drop skip)
          (v, skip + k)
      else (invalidCodePoint, 2)

/-- The UTF-8 bytes of a code point, at most four of them. -/
def utf8Of (v : Nat) : Bytes :=
  if v ≤ 0x7f then [v.toUInt8]
  else if v ≤ 0x7ff then [(0xc0 + v / 64).toUInt8, (0x80 + v % 64).toUInt8]
  else if v < 0x10000 then
    [(0xe0 + v / 4096 % 16).toUInt8, (0x80 + v / 64 % 64).toUInt8, (0x80 + v % 64).toUInt8]
  else
    [(0xf0 + v / 262144 % 8).toUInt8, (0x80 + v / 4096 % 64).toUInt8, (0x80 + v / 64 % 64).toUInt8,
     (0x80 + v % 64).toUInt8]

/-- The SQL text a stored JSON string stands for: escapes replaced by the characters they stand
for, an escape of no character dropped. -/
def unescapeJson (b : Bytes) : Bytes :=
  go b (b.length + 1) []
where
  go : Bytes → Nat → Bytes → Bytes
    | _, 0, acc => acc
    | [], _ + 1, acc => acc
    | c :: rest, fuel + 1, acc =>
      if c == 92 then
        let (v, k) := readEscape (c :: rest) (rest.length + 1)
        let out := if v == invalidCodePoint then [] else utf8Of v
        go ((c :: rest).drop k) fuel (acc ++ out)
      else go rest fuel (acc ++ [c])

/-- The next character of a label: its code point and the rest, reading escapes unless the
label is unescaped; 0 at the end. -/
def labelChar (b : Bytes) (unescaped : Bool) : Nat × Bytes :=
  match b with
  | [] => (0, [])
  | c :: rest =>
    if unescaped || c != 92 then
      if c ≥ 0xc0 then
        let (v, k) := readCodePoint b
        (v, b.drop k)
      else (c.toNat, rest)
    else
      let (v, k) := readEscape b (b.length + 1)
      (v, b.drop k)

/-- Whether two labels name the same key: their characters compared one by one, escapes read
in a label that has them, up to the first character 0. -/
def sameLabel (a : Bytes) (rawA : Bool) (b : Bytes) (rawB : Bool) : Bool :=
  if rawA && rawB then a == b
  else go a b (a.length + b.length + 1)
where
  go (x y : Bytes) : Nat → Bool
    | 0 => true
    | fuel + 1 =>
      let (cx, x') := labelChar x rawA
      let (cy, y') := labelChar y rawB
      if cx != cy then false else if cx == 0 then true else go x' y' fuel

/-- The number of items of an array node; 0 for any other node. -/
def JsonNode.count : JsonNode → Nat
  | .array items => items.length
  | _ => 0

/-- The name `json_type` gives the kind of a node. -/
def JsonNode.typeName : JsonNode → String
  | .null => "null"
  | .bool true => "true"
  | .bool false => "false"
  | .number .integer _ | .number .hex _ => "integer"
  | .number _ _ => "real"
  | .string _ _ => "text"
  | .array _ => "array"
  | .object _ => "object"

end RecordMap.Sql
