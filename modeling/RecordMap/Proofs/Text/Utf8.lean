import RecordMap.Sql.Bytes
import Mathlib.Tactic.SplitIfs

/-!
# Reading back UTF-8

The lenient decoder reads the UTF-8 bytes of every text as the text (`decodeLossy_bytes`):
the encoding of a character is a leading byte whose shape announces the continuation bytes
that follow, each within the bounds the decoder asks for (`leadShape_two`, `leadShape_three`,
`leadShape_four`), and the bits they carry put the code point back together
(`go_utf8EncodeChar`).
-/

namespace RecordMap.Text

/-! ## The bytes of a text -/

theorem ByteArray.toList_loop (bs : ByteArray) (i : Nat) (r : List UInt8) :
    ByteArray.toList.loop bs i r = r.reverse ++ bs.data.toList.drop i := by
  induction i, r using ByteArray.toList.loop.induct bs with
  | case1 i r hlt ih =>
    rw [ByteArray.toList.loop, if_pos hlt, ih]
    have hi : i < bs.data.toList.length := by simpa using hlt
    have hget : bs.get! i = bs.data.toList[i] := by
      simp only [ByteArray.get!, Array.getElem_toList]
      exact getElem!_pos bs.data i (by simpa using hlt)
    rw [List.drop_eq_getElem_cons hi, hget]
    simp
  | case2 i r hge =>
    rw [ByteArray.toList.loop, if_neg hge]
    have : bs.data.toList.length ≤ i := by simpa using hge
    simp [List.drop_eq_nil_of_le this]

theorem ByteArray.toList_eq (bs : ByteArray) : bs.toList = bs.data.toList := by
  rw [ByteArray.toList, ByteArray.toList_loop]
  simp

theorem utf8Bytes_eq (s : String) : utf8Bytes s = s.toList.flatMap String.utf8EncodeChar := by
  rw [utf8Bytes, String.toUTF8_eq_toByteArray, ByteArray.toList_eq, ← String.utf8Encode_toList,
    List.utf8Encode, List.toList_data_toByteArray]

theorem toNat_valid (c : Char) :
    c.toNat < 0xD800 ∨ (0xDFFF < c.toNat ∧ c.toNat < 0x110000) := by
  have h : c.val.toNat.isValidChar := c.valid
  exact h

/-! ## Lead bytes and continuation bytes -/

theorem continues_iff {b lo hi : UInt8} :
    continues b lo hi = true ↔ lo.toNat ≤ b.toNat ∧ b.toNat ≤ hi.toNat := by
  simp [continues, UInt8.le_iff_toNat_le]

/-- The shape of a leading byte, read off its value. -/
theorem leadShape_eq (b : UInt8) :
    leadShape b =
      if b.toNat < 0x80 then some (0, 0, 0)
      else if 0xC2 ≤ b.toNat ∧ b.toNat ≤ 0xDF then some (1, 0x80, 0xBF)
      else if b.toNat = 0xE0 then some (2, 0xA0, 0xBF)
      else if b.toNat = 0xED then some (2, 0x80, 0x9F)
      else if 0xE1 ≤ b.toNat ∧ b.toNat ≤ 0xEF then some (2, 0x80, 0xBF)
      else if b.toNat = 0xF0 then some (3, 0x90, 0xBF)
      else if b.toNat = 0xF4 then some (3, 0x80, 0x8F)
      else if 0xF1 ≤ b.toNat ∧ b.toNat ≤ 0xF3 then some (3, 0x80, 0xBF)
      else none := by
  simp only [leadShape, UInt8.lt_iff_toNat_lt, UInt8.le_iff_toNat_le, Bool.and_eq_true,
    decide_eq_true_eq, beq_iff_eq, ← UInt8.toNat_inj, UInt8.reduceToNat]

theorem leadShape_one {b : UInt8} (h : b.toNat < 0x80) : leadShape b = some (0, 0, 0) := by
  rw [leadShape_eq, if_pos h]

theorem leadShape_two {b : UInt8} (h0 : 0xC2 ≤ b.toNat) (h1 : b.toNat ≤ 0xDF) :
    leadShape b = some (1, 0x80, 0xBF) := by
  rw [leadShape_eq, if_neg (by omega), if_pos ⟨h0, h1⟩]

theorem leadShape_three (b0 b1 : UInt8) (h0 : 0xE0 ≤ b0.toNat) (h0' : b0.toNat ≤ 0xEF)
    (h1 : 0x80 ≤ b1.toNat) (h1' : b1.toNat ≤ 0xBF) (hE0 : b0.toNat = 0xE0 → 0xA0 ≤ b1.toNat)
    (hED : b0.toNat = 0xED → b1.toNat ≤ 0x9F) :
    ∃ lo hi, leadShape b0 = some (2, lo, hi) ∧ continues b1 lo hi = true := by
  rw [leadShape_eq]
  split_ifs
  all_goals first
    | omega
    | exact ⟨_, _, rfl, continues_iff.2 (by simp only [UInt8.reduceToNat]; omega)⟩

theorem leadShape_four (b0 b1 : UInt8) (h0 : 0xF0 ≤ b0.toNat) (h0' : b0.toNat ≤ 0xF4)
    (h1 : 0x80 ≤ b1.toNat) (h1' : b1.toNat ≤ 0xBF) (hF0 : b0.toNat = 0xF0 → 0x90 ≤ b1.toNat)
    (hF4 : b0.toNat = 0xF4 → b1.toNat ≤ 0x8F) :
    ∃ lo hi, leadShape b0 = some (3, lo, hi) ∧ continues b1 lo hi = true := by
  rw [leadShape_eq]
  split_ifs
  all_goals first
    | omega
    | exact ⟨_, _, rfl, continues_iff.2 (by simp only [UInt8.reduceToNat]; omega)⟩

theorem takeContinuations_zero (acc : Nat) (lo hi : UInt8) (rest : List UInt8) :
    takeContinuations acc 0 lo hi rest = (some acc, rest) := by
  cases rest <;> simp only [takeContinuations, if_true]

theorem takeContinuations_succ {acc due : Nat} {b lo hi : UInt8} (rest : List UInt8)
    (h : continues b lo hi = true) :
    takeContinuations acc (due + 1) lo hi (b :: rest) =
      takeContinuations (acc * 64 + b.toNat % 64) due 0x80 0xBF rest := by
  simp only [takeContinuations, h, if_true]

theorem continues_tail {b : UInt8} (h0 : 0x80 ≤ b.toNat) (h1 : b.toNat ≤ 0xBF) :
    continues b 0x80 0xBF = true :=
  continues_iff.2 ⟨h0, h1⟩

/-! ## One character -/

/-- The decoder takes one character off bytes whose lead and continuations it accepts. -/
theorem go_cons_of_take {b : UInt8} {rest after : List UInt8} {more n : Nat} {lo hi : UInt8}
    (hlead : leadShape b = some (more, lo, hi))
    (htake : takeContinuations (leadBits b more) more lo hi rest = (some n, after)) :
    decodeLossy.go (b :: rest) = Char.ofNat n :: decodeLossy.go after := by
  rw [decodeLossy.go]
  simp only [hlead]
  split
  · rename_i h
    rw [htake] at h
    cases h
    rfl
  · rename_i h
    rw [htake] at h
    cases h

theorem toNat_ofNat_of_lt {n : Nat} (h : n < 256) : (UInt8.ofNat n).toNat = n := by
  rw [UInt8.toNat_ofNat']
  omega

/-- The decoder reads the encoding of a character as the character. -/
theorem go_utf8EncodeChar (c : Char) (rest : List UInt8) :
    decodeLossy.go (String.utf8EncodeChar c ++ rest) = c :: decodeLossy.go rest := by
  have hv : c.val.toNat = c.toNat := rfl
  have hvalid := toNat_valid c
  unfold String.utf8EncodeChar
  simp only [hv]
  -- the four lengths of an encoding, each a lead byte and its continuations
  split_ifs <;> simp only [List.cons_append, List.nil_append]
  · have hb := toNat_ofNat_of_lt (n := c.toNat) (by omega)
    rw [go_cons_of_take (leadShape_one (by omega)), Char.ofNat_toNat]
    rw [leadBits, takeContinuations_zero, hb]
  · have hb0 := toNat_ofNat_of_lt (n := c.toNat / 64 % 32 + 0xc0) (by omega)
    have hb1 := toNat_ofNat_of_lt (n := c.toNat % 64 + 0x80) (by omega)
    rw [go_cons_of_take (leadShape_two (by omega) (by omega)) (n := c.toNat),
      Char.ofNat_toNat]
    rw [leadBits, takeContinuations_succ _ (continues_tail (by omega) (by omega)),
      takeContinuations_zero, hb0, hb1]
    congr 2
    omega
  · have hb0 := toNat_ofNat_of_lt (n := c.toNat / 4096 % 16 + 0xe0) (by omega)
    have hb1 := toNat_ofNat_of_lt (n := c.toNat / 64 % 64 + 0x80) (by omega)
    have hb2 := toNat_ofNat_of_lt (n := c.toNat % 64 + 0x80) (by omega)
    obtain ⟨lo, hi, hlead, hcont⟩ := leadShape_three
      (UInt8.ofNat (c.toNat / 4096 % 16 + 0xe0)) (UInt8.ofNat (c.toNat / 64 % 64 + 0x80))
      (by omega) (by omega) (by omega) (by omega) (by omega) (by omega)
    rw [go_cons_of_take hlead (n := c.toNat), Char.ofNat_toNat]
    rw [leadBits, takeContinuations_succ _ hcont,
      takeContinuations_succ _ (continues_tail (by omega) (by omega)), takeContinuations_zero,
      hb0, hb1, hb2]
    congr 2
    omega
  · have hb0 := toNat_ofNat_of_lt (n := c.toNat / 262144 % 8 + 0xf0) (by omega)
    have hb1 := toNat_ofNat_of_lt (n := c.toNat / 4096 % 64 + 0x80) (by omega)
    have hb2 := toNat_ofNat_of_lt (n := c.toNat / 64 % 64 + 0x80) (by omega)
    have hb3 := toNat_ofNat_of_lt (n := c.toNat % 64 + 0x80) (by omega)
    obtain ⟨lo, hi, hlead, hcont⟩ :=
      leadShape_four (UInt8.ofNat (c.toNat / 262144 % 8 + 0xf0))
        (UInt8.ofNat (c.toNat / 4096 % 64 + 0x80))
        (by omega) (by omega) (by omega) (by omega) (by omega) (by omega)
    rw [go_cons_of_take hlead (n := c.toNat), Char.ofNat_toNat]
    simp only [leadBits]
    rw [takeContinuations_succ _ hcont,
      takeContinuations_succ _ (continues_tail (by omega) (by omega)),
      takeContinuations_succ _ (continues_tail (by omega) (by omega)), takeContinuations_zero,
      hb0, hb1, hb2, hb3]
    congr 2
    omega

/-! ## Whole texts -/

theorem go_flatMap_utf8EncodeChar (cs : List Char) :
    decodeLossy.go (cs.flatMap String.utf8EncodeChar) = cs := by
  induction cs with
  | nil => simp [decodeLossy.go]
  | cons c cs ih => rw [List.flatMap_cons, go_utf8EncodeChar, ih]

theorem decodeLossy_bytes (s : String) : decodeLossy (utf8Bytes s) = s := by
  rw [decodeLossy, utf8Bytes_eq, go_flatMap_utf8EncodeChar, String.ofList_toList]

end RecordMap.Text

namespace RecordMap.Sql

theorem textOf_bytesOf (s : String) : textOf (bytesOf s) = s :=
  Text.decodeLossy_bytes s

end RecordMap.Sql
