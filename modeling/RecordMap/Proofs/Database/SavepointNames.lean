import RecordMap.Database.Transaction

/-!
# Savepoint names

A savepoint's name is `S`, a random number, `D` and the depth it was made at; the name goes into
the text of `savepoint`, `release` and `rollback to` statements as it stands, so the reader of
names is all that keeps other text out of them. Main statement (`savepoint_names_parse_exactly`):
`savepointDepth?` accepts exactly the names spelled `S`, digits, `D`, digits whose depth fits in
64 bits, and reads the depth the digits denote; every name the library makes reads back as its
depth; and a name spelled any other way never reaches the engine: releasing or rolling back to
it fails with the invalid-savepoint error and leaves the world as it was.
-/

namespace RecordMap

/-- `token` is `S`, the digits `random`, `D`, the digits `depth`, neither part empty. -/
structure SavepointSpelling (token : String) (random depth : List Char) : Prop where
  spelled : token.toList = 'S' :: (random ++ 'D' :: depth)
  random_digits : random ≠ [] ∧ ∀ c ∈ random, c.isDigit
  depth_digits : depth ≠ [] ∧ ∀ c ∈ depth, c.isDigit

namespace Db

theorem allDigits_iff (cs : List Char) : allDigits cs = true ↔ cs ≠ [] ∧ ∀ c ∈ cs, c.isDigit := by
  simp [allDigits]

theorem digitsToNat_eq_ofDigitChars (cs : List Char) :
    Numeral.digitsToNat cs = Nat.ofDigitChars 10 cs 0 := rfl

theorem ne_D_of_isDigit {c : Char} (h : c.isDigit) : (c != 'D') = true := by
  have : c ≠ 'D' := by
    rintro rfl
    exact absurd h (by decide)
  simpa using this

/-- The reader on a spelled name: it splits at the `D` after the random digits. -/
theorem savepointDepth?_of_spelling {token : String} {random depth : List Char}
    (h : SavepointSpelling token random depth) :
    savepointDepth? token =
      if Nat.ofDigitChars 10 depth 0 ≤ maxDepthCount then some (Nat.ofDigitChars 10 depth 0)
      else none := by
  have hrandom : ∀ c ∈ random, (c != 'D') = true := fun c hc => ne_D_of_isDigit (h.random_digits.2 c hc)
  have hdrop : (random ++ 'D' :: depth).dropWhile (· != 'D') = 'D' :: depth := by
    rw [List.dropWhile_append_of_pos hrandom]
    simp
  have htake : (random ++ 'D' :: depth).takeWhile (· != 'D') = random := by
    rw [List.takeWhile_append_of_pos hrandom]
    simp
  have hdigits : (allDigits random && allDigits depth) = true := by
    simp only [Bool.and_eq_true, allDigits_iff]
    exact ⟨h.random_digits, h.depth_digits⟩
  simp only [savepointDepth?, h.spelled, hdrop, htake, hdigits, if_true, digitsToNat_eq_ofDigitChars]
  rfl

/-- What the reader accepts is spelled as a name. -/
theorem spelling_of_savepointDepth? {token : String} {d : Nat} (h : savepointDepth? token = some d) :
    ∃ random depth, SavepointSpelling token random depth ∧
      Nat.ofDigitChars 10 depth 0 = d ∧ d ≤ maxDepthCount := by
  unfold savepointDepth? at h
  split at h
  · rename_i rest htoken
    split at h
    · rename_i depth hdrop
      -- the random part is what comes before the first `D`
      have hsplit : rest = rest.takeWhile (· != 'D') ++ 'D' :: depth := by
        rw [← hdrop, List.takeWhile_append_dropWhile]
      dsimp only at h
      split at h
      · rename_i hdigits
        simp only [Bool.and_eq_true, allDigits_iff] at hdigits
        split at h
        · rename_i hle
          cases h
          exact ⟨_, depth, ⟨by rw [htoken, ← hsplit], hdigits.1, hdigits.2⟩, rfl, hle⟩
        · cases h
      · cases h
    · cases h
  · cases h

theorem savepointDepth?_eq_some_iff (token : String) (d : Nat) :
    savepointDepth? token = some d ↔
      ∃ random depth, SavepointSpelling token random depth ∧
        Nat.ofDigitChars 10 depth 0 = d ∧ d ≤ maxDepthCount := by
  constructor
  · exact spelling_of_savepointDepth?
  · rintro ⟨random, depth, hspell, rfl, hle⟩
    rw [savepointDepth?_of_spelling hspell, if_pos hle]

theorem madeName_spelling (r d : Nat) :
    SavepointSpelling ("S" ++ toString r ++ "D" ++ toString d) (Nat.toDigits 10 r)
      (Nat.toDigits 10 d) where
  spelled := by simp [String.toList_append, Nat.toString_eq_repr, Nat.toList_repr]
  random_digits := ⟨Nat.toDigits_ne_nil, fun _ => Nat.isDigit_of_mem_toDigits (by decide) (by decide)⟩
  depth_digits := ⟨Nat.toDigits_ne_nil, fun _ => Nat.isDigit_of_mem_toDigits (by decide) (by decide)⟩

theorem savepointExecute_of_none {token : String} (h : savepointDepth? token = none)
    (c : Nat) (verb : String) (w : World) :
    savepointExecute c token verb w = .error (invalidSavepoint token) w := by
  unfold savepointExecute
  rw [h]
  rfl

/-- Savepoint names: the reader accepts exactly `S`, digits, `D`, digits with a depth that fits
in 64 bits, reading the depth the digits denote (leading zeros allowed); every name made of a
number and a 64-bit depth reads back as that depth; and any other name fails a release or
rollback at once, leaving the world as it was, so only names so spelled reach statement text. -/
theorem savepoint_names_parse_exactly :
    (∀ (token : String) (d : Nat), savepointDepth? token = some d ↔
        ∃ random depth, SavepointSpelling token random depth ∧
          Nat.ofDigitChars 10 depth 0 = d ∧ d ≤ maxDepthCount) ∧
      (∀ (r : Nat) (d : UInt64),
        savepointDepth? ("S" ++ toString r ++ "D" ++ toString d.toNat) = some d.toNat) ∧
      ∀ token : String, (∃ random depth, SavepointSpelling token random depth) ∨
        ∀ (c : Nat) (verb : String) (w : World),
          savepointExecute c token verb w = .error (invalidSavepoint token) w := by
  refine ⟨savepointDepth?_eq_some_iff, fun r d => ?_, fun token => ?_⟩
  · have hle : d.toNat ≤ maxDepthCount := by
      have := d.toNat_lt
      show d.toNat ≤ 2 ^ 64 - 1
      omega
    rw [savepointDepth?_of_spelling (madeName_spelling r d.toNat), Nat.ofDigitChars_ten_toDigits,
      if_pos hle]
  · -- a name the reader refuses is either misspelled or has a depth past 64 bits
    cases h : savepointDepth? token with
    | some d => exact .inl (by
        obtain ⟨random, depth, hspell, -⟩ := spelling_of_savepointDepth? h
        exact ⟨random, depth, hspell⟩)
    | none => exact .inr (savepointExecute_of_none h)

end Db

end RecordMap
