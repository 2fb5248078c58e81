/-!
# Universally unique identifiers

A `Uuid` is a 128-bit number, written as 32 lowercase hexadecimal digits in groups of 8, 4, 4,
4 and 12 joined by hyphens. `Uuid.parse` accepts the plain 32 digits, the hyphenated form, the
hyphenated form in braces and the hyphenated form after `urn:uuid:` (the prefix in any case),
digits in either case. A text of any other shape is rejected with the first fault found: a text
longer than the longest form has the wrong length; otherwise scanning it finds a character that
is neither a digit nor a hyphen, then a wrong length, then a wrong number of groups, then the
first group of the wrong length.

Random identifiers are version 4: the version nibble is 4 and the variant bits are `10`.
-/

namespace RecordMap

/-- A 128-bit identifier. -/
structure Uuid where
  /-- The identifier as a number below `2 ^ 128`. -/
  value : Nat
  deriving Repr, DecidableEq, Inhabited

/-- Why a text is not an identifier. -/
inductive UuidError where
  | character (c : Char) (index : Nat)
  | length (n : Nat)
  | groupCount (n : Nat)
  | groupLength (group len : Nat)
  deriving Repr, DecidableEq

/-- The text of a fault. -/
def UuidError.message : UuidError → String
  | .character c i => "invalid character: found " ++ "\x60" ++ c.toString ++ "\x60 at " ++ toString i
  | .length n => "invalid length: found " ++ toString n
  | .groupCount n => "invalid group count: expected 5, found " ++ toString n
  | .groupLength g n =>
    "invalid group length in group " ++ toString g ++ ": expected " ++
      toString ([8, 4, 4, 4, 12].getD g 0) ++ ", found " ++ toString n

namespace Uuid

/-- The identifier with all bits zero. -/
def nil : Uuid := ⟨0⟩

/-- The value of a hexadecimal digit. -/
def hexValue? (c : Char) : Option Nat :=
  if '0' ≤ c ∧ c ≤ '9' then some (c.toNat - '0'.toNat)
  else if 'a' ≤ c ∧ c ≤ 'f' then some (c.toNat - 'a'.toNat + 10)
  else if 'A' ≤ c ∧ c ≤ 'F' then some (c.toNat - 'A'.toNat + 10)
  else none

/-- Whether a character is a hexadecimal digit. -/
def isHex (c : Char) : Bool := (hexValue? c).isSome

/-- The number written by hexadecimal digits, or `none` if one is not a digit. -/
def hexNumber? (cs : List Char) : Option Nat :=
  cs.foldlM (fun n c => (hexValue? c).map (16 * n + ·)) 0

/-- The lowercase hexadecimal digit of `d < 16`. -/
def hexDigit (d : Nat) : Char :=
  if d < 10 then Char.ofNat ('0'.toNat + d) else Char.ofNat ('a'.toNat + d - 10)

/-- `n` as exactly `width` lowercase hexadecimal digits, most significant first. -/
def hexDigits (width n : Nat) : List Char :=
  (List.range width).reverse.map fun i => hexDigit (n / Nat.pow 16 i % 16)

/-- The hyphenated lowercase text. -/
def hyphenated (u : Uuid) : String :=
  let ds := hexDigits 32 u.value
  String.ofList (ds.take 8 ++ ['-'] ++ (ds.drop 8).take 4 ++ ['-'] ++ (ds.drop 12).take 4 ++
    ['-'] ++ (ds.drop 16).take 4 ++ ['-'] ++ ds.drop 20)

/-- The byte length of a list of characters in UTF-8. -/
def byteLength (cs : List Char) : Nat := cs.foldl (fun n c => n + c.utf8Size) 0

/-- The digits of the hyphenated form, if the hyphens stand at 8, 13, 18 and 23. -/
def hyphenatedDigits? (cs : List Char) : Option (List Char) :=
  if cs.length = 36 ∧ cs[8]? = some '-' ∧ cs[13]? = some '-' ∧ cs[18]? = some '-' ∧
      cs[23]? = some '-' then
    some (cs.take 8 ++ (cs.drop 9).take 4 ++ (cs.drop 14).take 4 ++ (cs.drop 19).take 4 ++
      cs.drop 24)
  else none

/-- The body of a braced or prefixed text, with the number of characters before it, and
whether the text had neither. -/
def body (cs : List Char) : List Char × Nat × Bool :=
  match cs with
  | '{' :: rest =>
    if rest.getLast? = some '}' then (rest.dropLast, 1, false) else (cs, 0, true)
  | _ =>
    if (cs.take 9).map Char.toLower = "urn:uuid:".toList then (cs.drop 9, 9, false)
    else (cs, 0, true)

/-- The identifier written by well-shaped text. -/
def parseShape? (cs : List Char) : Option Uuid :=
  let digits? : Option (List Char) :=
    match byteLength cs, body cs with
    | 32, _ => if cs.length = 32 then some cs else none
    | 36, _ => hyphenatedDigits? cs
    | 38, (inner, 1, _) => hyphenatedDigits? inner
    | 45, (inner, 9, _) => hyphenatedDigits? inner
    | _, _ => none
  digits?.bind fun ds => if ds.length = 32 then (hexNumber? ds).map Uuid.mk else none

/-- The first character of a body that is neither a hexadecimal digit nor a hyphen, with its
byte index in the whole text. -/
def badCharacter? (offset : Nat) : Nat → List Char → Option (Char × Nat)
  | _, [] => none
  | i, c :: rest =>
    if c = '-' ∨ isHex c then badCharacter? offset (i + c.utf8Size) rest
    else some (c, i + offset)

/-- The byte indices of the hyphens of a body. -/
def hyphenIndices : Nat → List Char → List Nat
  | _, [] => []
  | i, c :: rest =>
    let tail := hyphenIndices (i + c.utf8Size) rest
    if c = '-' then i :: tail else tail

/-- Why a text that does not parse is not an identifier. -/
def fault (cs : List Char) : UuidError :=
  if byteLength cs > 45 then .length (byteLength cs) else
  let (inner, offset, simple) := body cs
  match badCharacter? offset 0 inner with
  | some (c, i) => .character c i
  | none =>
    let hyphens := hyphenIndices 0 inner
    if hyphens.isEmpty ∧ simple then .length (byteLength cs)
    else if hyphens.length ≠ 4 then .groupCount (hyphens.length + 1)
    else
      let starts := [0, 9, 14, 19, 24]
      let wrong := (List.range 4).find? fun i => hyphens[i]? ≠ some (starts.getD (i + 1) 0 - 1)
      match wrong with
      | some i => .groupLength i (hyphens.getD i 0 - starts.getD i 0)
      | none => .groupLength 4 (byteLength cs - 24)

/-- Reads an identifier, or says why the text is not one. -/
def parse (s : String) : Except UuidError Uuid :=
  match parseShape? s.toList with
  | some u => .ok u
  | none => .error (fault s.toList)

/-- The version 4 identifier made from 128 random bits. -/
def ofRandom (bits : Nat) : Uuid :=
  let v := bits % Nat.pow 2 128
  -- clear the version nibble (bits 76 to 79) and the variant bits (62, 63), then set them
  let v := v - (v / Nat.pow 2 76 % 16) * Nat.pow 2 76 + 4 * Nat.pow 2 76
  let v := v - (v / Nat.pow 2 62 % 4) * Nat.pow 2 62 + 2 * Nat.pow 2 62
  ⟨v⟩

end Uuid

end RecordMap
