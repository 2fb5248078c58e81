/-!
# Reading UTF-8 bytes

`decodeLossy` reads bytes as UTF-8 and writes the replacement character U+FFFD for each maximal
ill-formed part: a byte that cannot begin a character, or a leading byte together with the
continuation bytes that still agreed with it when the sequence broke off. Well-formed input
reads as the text whose encoding it is.
-/

namespace RecordMap.Text

def replacement : Char := Char.ofNat 0xFFFD

/-- Whether a byte continues a sequence, within the bounds `[lo, hi]`. -/
def continues (b : UInt8) (lo hi : UInt8) : Bool := lo ≤ b && b ≤ hi

/-- The number of continuation bytes after a leading byte and the bounds of the first of them;
`none` for a byte that cannot lead. -/
def leadShape (b : UInt8) : Option (Nat × UInt8 × UInt8) :=
  if b < 0x80 then some (0, 0, 0)
  else if 0xC2 ≤ b && b ≤ 0xDF then some (1, 0x80, 0xBF)
  else if b == 0xE0 then some (2, 0xA0, 0xBF)
  else if b == 0xED then some (2, 0x80, 0x9F)
  else if 0xE1 ≤ b && b ≤ 0xEF then some (2, 0x80, 0xBF)
  else if b == 0xF0 then some (3, 0x90, 0xBF)
  else if b == 0xF4 then some (3, 0x80, 0x8F)
  else if 0xF1 ≤ b && b ≤ 0xF3 then some (3, 0x80, 0xBF)
  else none

/-- The code point bits a leading byte contributes. -/
def leadBits (b : UInt8) (more : Nat) : Nat :=
  match more with
  | 0 => b.toNat
  | 1 => b.toNat % 32
  | 2 => b.toNat % 16
  | _ => b.toNat % 8

/-- Reads the continuation bytes of one character: the code point so far, how many bytes are
still due, the bounds of the next one, and the rest of the input. Returns the code point (or
`none` when the sequence broke off) and the input after the bytes taken. -/
def takeContinuations (acc : Nat) (due : Nat) (lo hi : UInt8) :
    List UInt8 → Option Nat × List UInt8
  | [] => if due = 0 then (some acc, []) else (none, [])
  | b :: rest =>
    match due with
    | 0 => (some acc, b :: rest)
    | due + 1 =>
      if continues b lo hi then takeContinuations (acc * 64 + b.toNat % 64) due 0x80 0xBF rest
      else (none, b :: rest)

theorem takeContinuations_length (acc due : Nat) (lo hi : UInt8) (bs : List UInt8) :
    (takeContinuations acc due lo hi bs).2.length ≤ bs.length := by
  induction bs generalizing acc due lo hi with
  | nil => cases due <;> simp [takeContinuations]
  | cons b rest ih =>
    cases due with
    | zero => simp [takeContinuations]
    | succ d =>
      simp only [takeContinuations]
      split
      · exact Nat.le_succ_of_le (ih _ _ _ _)
      · simp

/-- The text the bytes encode, with a replacement character for each ill-formed part. -/
def decodeLossy (bs : List UInt8) : String :=
  String.ofList (go bs)
where
  go : List UInt8 → List Char
    | [] => []
    | b :: rest =>
      match leadShape b with
      | none => replacement :: go rest
      | some (more, lo, hi) =>
        match h : takeContinuations (leadBits b more) more lo hi rest with
        | (some cp, after) =>
          have : after.length < rest.length + 1 := by
            have := takeContinuations_length (leadBits b more) more lo hi rest
            rw [h] at this
            exact Nat.lt_succ_of_le this
          Char.ofNat cp :: go after
        | (none, after) =>
          have : after.length < rest.length + 1 := by
            have := takeContinuations_length (leadBits b more) more lo hi rest
            rw [h] at this
            exact Nat.lt_succ_of_le this
          replacement :: go after
  termination_by bs => bs.length

/-- The UTF-8 bytes of a text. -/
def utf8Bytes (s : String) : List UInt8 := s.toUTF8.toList

end RecordMap.Text
