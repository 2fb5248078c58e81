import RecordMap.Text.Utf8

/-!
# Text as bytes

The engine keeps text as the bytes it was given, valid UTF-8 or not, and reads characters from
them leniently:

* `readChar` takes one character: a byte below `0xC0` stands for itself, and a leading byte at
  or above `0xC0` takes every continuation byte after it. A sequence that decodes below `0x80`,
  to a surrogate, or to `U+FFFE`/`U+FFFF` reads as `U+FFFD`.
* `skipChar` steps over one character the same way without decoding it.
* Functions that treat text as a C string stop at the first zero byte (`untilNul`).
* `charCount` counts the characters before the first zero byte: every byte except the
  continuation bytes that follow a leading byte.
* Letter case is ASCII only: bytes at or above `0x80` never change.
-/

namespace RecordMap.Sql

abbrev Bytes := List UInt8

/-- The UTF-8 bytes of a text. -/
def bytesOf (s : String) : Bytes := s.toUTF8.toList

/-- The text of some bytes, ill-formed parts replaced. -/
def textOf (b : Bytes) : String := Text.decodeLossy b

/-- Whether a byte continues a character. -/
def isContinuation (b : UInt8) : Bool := b &&& 0xC0 == 0x80

/-- The payload bits of a leading byte at or above `0xC0`. -/
def leadPayload (c : Nat) : Nat :=
  if c < 0xE0 then c - 0xC0
  else if c < 0xF0 then c - 0xE0
  else if c < 0xF8 then c - 0xF0
  else if c < 0xFC then c - 0xF8
  else if c < 0xFE then c - 0xFC
  else 0

/-- Takes continuation bytes into a code point, kept to 32 bits. -/
def takeTrail (c : Nat) : Bytes → Nat × Bytes
  | b :: rest =>
    if isContinuation b then takeTrail ((c * 64 + (b.toNat % 64)) % Nat.pow 2 32) rest else (c, b :: rest)
  | [] => (c, [])

/-- Reads one character; empty input reads as 0. -/
def readChar : Bytes → Nat × Bytes
  | [] => (0, [])
  | b :: rest =>
    let c := b.toNat
    if c < 0xC0 then (c, rest)
    else
      let (cp, after) := takeTrail (leadPayload c) rest
      let bad := cp < 0x80 || cp / 2048 == 0xD800 / 2048 || cp / 2 == 0xFFFE / 2
      (if bad then 0xFFFD else cp, after)

/-- Steps over one character. -/
def skipChar : Bytes → Bytes
  | [] => []
  | b :: rest => if b.toNat ≥ 0xC0 then rest.dropWhile isContinuation else rest

/-- The bytes before the first zero byte. -/
def untilNul (b : Bytes) : Bytes := b.takeWhile (· != 0)

/-- The characters of some bytes, read one by one. -/
def decodeChars (b : Bytes) : List Nat :=
  go b b.length
where
  go : Bytes → Nat → List Nat
    | [], _ => []
    | _, 0 => []
    | b :: rest, fuel + 1 =>
      let (c, after) := readChar (b :: rest)
      c :: go after fuel

/-- The number of characters before the first zero byte. -/
def charCount (b : Bytes) : Nat :=
  go (untilNul b) false
where
  go : Bytes → Bool → Nat
    | [], _ => 0
    | x :: rest, afterLead =>
      if afterLead && isContinuation x then go rest true
      else 1 + go rest (x.toNat ≥ 0xC0)

/-- The bytes of a code point in UTF-8, for code points up to `0x10FFFF` and beyond. -/
def encodeChar (c : Nat) : Bytes :=
  if c < 0x80 then [c.toUInt8]
  else if c < 0x800 then [(0xC0 + c / 64).toUInt8, (0x80 + c % 64).toUInt8]
  else if c < 0x10000 then
    [(0xE0 + c / 4096).toUInt8, (0x80 + c / 64 % 64).toUInt8, (0x80 + c % 64).toUInt8]
  else
    [(0xF0 + c / 262144 % 8).toUInt8, (0x80 + c / 4096 % 64).toUInt8, (0x80 + c / 64 % 64).toUInt8,
      (0x80 + c % 64).toUInt8]

/-- A byte with an ASCII capital made small. -/
def lowerByte (b : UInt8) : UInt8 := if 0x41 ≤ b && b ≤ 0x5A then b + 0x20 else b

/-- A byte with an ASCII small letter made capital. -/
def upperByte (b : UInt8) : UInt8 := if 0x61 ≤ b && b ≤ 0x7A then b - 0x20 else b

/-- The upper-case hexadecimal digits of some bytes. -/
def hexText (b : Bytes) : String :=
  let digit (n : Nat) : Char := if n < 10 then Char.ofNat (48 + n) else Char.ofNat (55 + n)
  String.ofList (b.flatMap fun x => [digit (x.toNat / 16), digit (x.toNat % 16)])

/-- Whether a byte is one of the blanks the engine skips: space, tab, line feed, vertical tab,
form feed and carriage return. -/
def isSpaceByte (b : UInt8) : Bool := b == 32 || (9 ≤ b && b ≤ 13)

/-- Whether a byte is an ASCII digit. -/
def isDigitByte (b : UInt8) : Bool := 48 ≤ b && b ≤ 57

/-- The bytes with blanks at the start dropped. -/
def dropSpaces (b : Bytes) : Bytes := b.dropWhile isSpaceByte

end RecordMap.Sql
