import RecordMap.Proofs.Sql.NoColumns

/-!
# Quoted names read back as themselves

`quoteIdentifier` writes a name between double quotes with every quote inside doubled; the
tokenizer reads a double-quoted token up to the first quote that is not doubled, taking a
doubled quote for one. Main statement (`quoted_name_lexes_as_itself`): a quoted name followed
by any text that does not begin with a quote tokenizes as one quoted-name token, whose name is
the original name, followed by the tokens of that text moved past the quoted name. So quoting
is injective, and no name, however many quotes it holds or ends in, closes its quotes early.

The scanner is read on the doubled form character by character (`scanQuoted_doubledQuotes`);
a whole run of the tokenizer is then moved along the text (`Token.shift`, `tokenize_go_shift`)
and given any fuel past the length of the text (`tokenize_go_fuel`).
-/

namespace RecordMap.Sql

open RecordMap.Text

/-! ## Scanning one quoted name -/

theorem length_quoteIdentifier (name : String) :
    (quoteIdentifier name).length = (doubledQuotes name.toList).length + 2 := by
  rw [← String.length_toList, quoteIdentifier_toList]
  simp

theorem scanOne_quoteIdentifier_append (name : String) {rest : List Char}
    (hrest : rest.head? ≠ some '"') :
    scanOne ((quoteIdentifier name).toList ++ rest) =
      (some (.quoted name true), (quoteIdentifier name).length) := by
  rw [length_quoteIdentifier, quoteIdentifier_toList, List.append_assoc, List.cons_append, List.singleton_append,
    scanOne]
  simp [isGap, scanQuoted_doubledQuotes _ hrest, String.ofList_toList]

/-! ## Runs of the tokenizer -/

/-- A token moved `bytes` bytes and `chars` characters further into its text. -/
def Token.shift (t : Token) (bytes chars : Nat) : Token :=
  { t with offset := t.offset + bytes, index := t.index + chars, stop := t.stop + chars }

/-- Starting further into the text moves every token by as much. -/
theorem tokenize_go_shift (cs : List Char) (offset index fuel bytes chars : Nat) :
    tokenize.go cs (offset + bytes) (index + chars) fuel =
      (tokenize.go cs offset index fuel).map (·.shift bytes chars) := by
  induction fuel generalizing cs offset index with
  | zero => simp [tokenize.go, Token.shift]
  | succ fuel ih =>
    rcases hscan : scanOne cs with ⟨kind, n⟩
    -- the run after the first step starts as far further in
    have hb : offset + bytes + byteCount (cs.take (max n 1)) =
        offset + byteCount (cs.take (max n 1)) + bytes := by omega
    have hc : index + chars + (cs.take (max n 1)).length =
        index + (cs.take (max n 1)).length + chars := by omega
    simp only [tokenize.go, hscan]
    split
    · simp [Token.shift]
    · rw [hb, hc, ih]
      simp [Token.shift, Nat.add_right_comm]
    · rw [hb, hc, ih]

theorem scanOne_nil : scanOne [] = (some .finish, 0) := rfl

/-- Fuel past the length of the text does not change a run: each step takes at least one
character. -/
theorem tokenize_go_fuel (cs : List Char) (offset index : Nat) {f g : Nat}
    (hf : cs.length ≤ f) (hg : cs.length ≤ g) :
    tokenize.go cs offset index (f + 1) = tokenize.go cs offset index (g + 1) := by
  induction f generalizing cs offset index g with
  | zero =>
    rw [Nat.le_zero, List.length_eq_zero_iff] at hf
    subst hf
    simp [tokenize.go, scanOne_nil]
  | succ f ih =>
    cases cs with
    | nil => simp [tokenize.go, scanOne_nil]
    | cons c rest =>
      obtain ⟨g, rfl⟩ : ∃ g', g = g' + 1 := ⟨g - 1, by simp at hg; omega⟩
      -- the step is the same; the run after it has a text at least one character shorter
      have hdrop : ∀ n, ((c :: rest).drop (max n 1)).length ≤ f ∧
          ((c :: rest).drop (max n 1)).length ≤ g := by
        intro n
        simp only [List.length_drop, List.length_cons] at hf hg ⊢
        omega
      rcases hscan : scanOne (c :: rest) with ⟨kind, n⟩
      conv => lhs; rw [tokenize.go]
      conv => rhs; rw [tokenize.go]
      simp only [hscan]
      split
      · rfl
      · rw [ih _ _ _ (hdrop n).1 (hdrop n).2]
      · rw [ih _ _ _ (hdrop n).1 (hdrop n).2]

/-- A run over a quoted name and what follows: the name's token, then the run over the rest. -/
theorem tokenize_go_quoteIdentifier_append (name : String) {rest : List Char}
    (hrest : rest.head? ≠ some '"') (offset index fuel : Nat) :
    tokenize.go ((quoteIdentifier name).toList ++ rest) offset index (fuel + 1) =
      ⟨.quoted name true, quoteIdentifier name, offset, index, index + (quoteIdentifier name).length⟩ ::
        tokenize.go rest (offset + byteCount (quoteIdentifier name).toList)
          (index + (quoteIdentifier name).length) fuel := by
  have hmax : max (quoteIdentifier name).length 1 = (quoteIdentifier name).length := by
    rw [length_quoteIdentifier]
    omega
  have htake : ((quoteIdentifier name).toList ++ rest).take (quoteIdentifier name).length =
      (quoteIdentifier name).toList := by
    simp [← String.length_toList]
  have hdrop : ((quoteIdentifier name).toList ++ rest).drop (quoteIdentifier name).length = rest := by
    simp [← String.length_toList]
  simp only [tokenize.go, scanOne_quoteIdentifier_append name hrest, hmax, htake, hdrop,
    String.ofList_toList, String.length_toList]

/-- Quoted names denote exactly their name: a quoted name followed by text that does not begin
with a quote tokenizes as one quoted-name token holding the name, then the tokens of the text
after it, moved past the quoted name; and two names quote alike only when they are equal. -/
theorem quoted_name_lexes_as_itself (name rest : String) (hrest : rest.toList.head? ≠ some '"') :
    tokenize (quoteIdentifier name ++ rest) =
        ⟨.quoted name true, quoteIdentifier name, 0, 0, (quoteIdentifier name).length⟩ ::
          (tokenize rest).map (·.shift (byteCount (quoteIdentifier name).toList)
            (quoteIdentifier name).length) ∧
      ∀ other : String, quoteIdentifier other = quoteIdentifier name → other = name := by
  have hlen := length_quoteIdentifier name
  constructor
  · -- one step takes the quoted name; the fuel left is more than the rest needs
    have hfuel : (quoteIdentifier name ++ rest).length + 1 =
        (rest.length + (quoteIdentifier name).length - 1) + 1 + 1 := by
      simp only [String.length_append]
      omega
    have hrest_le : rest.toList.length ≤ rest.length + (quoteIdentifier name).length - 1 := by
      rw [String.length_toList]
      omega
    unfold tokenize
    rw [hfuel, String.toList_append, tokenize_go_quoteIdentifier_append name hrest,
      tokenize_go_shift, tokenize_go_fuel rest.toList 0 0 hrest_le
        (Nat.le_of_eq String.length_toList), Nat.zero_add]
  · intro other h
    -- both names are the name of the first token of the quoted text
    have hscan := @scanOne_quoteIdentifier_append other [] (by simp)
    rw [h, scanOne_quoteIdentifier_append name (by simp)] at hscan
    simp at hscan
    exact hscan.symm

/-- A name that ends in a quote, followed by the rest of an index creation. -/
theorem quote_ending_name_lexes_as_itself :
    " on x".toList.head? ≠ some '"' ∧
      tokenize (quoteIdentifier "a\"" ++ " on x") =
          ⟨.quoted "a\"" true, quoteIdentifier "a\"", 0, 0, (quoteIdentifier "a\"").length⟩ ::
            (tokenize " on x").map (·.shift (byteCount (quoteIdentifier "a\"").toList)
              (quoteIdentifier "a\"").length) ∧
        ∀ other : String, quoteIdentifier other = quoteIdentifier "a\"" → other = "a\"" :=
  ⟨by decide, quoted_name_lexes_as_itself "a\"" " on x" (by decide)⟩

end RecordMap.Sql
