import Mathlib
import RecordMap.Proofs.Sql.QuotedNames
import RecordMap.Proofs.Database.SavepointNames
import RecordMap.Proofs.Database.Streaming

/-!
# The transaction statements the library issues

The library controls transactions with six statements: `begin transaction`, `commit`,
`rollback`, and `savepoint`, `release` and `rollback to` followed by a savepoint name spelled
`S`, digits, `D`, digits. Each is a few words joined by single spaces, so it tokenizes as those
words (`tokenize_spaced`); the parser reads each as the statement it names, with no parameters
and nothing after it (`parse_of_statement` and the `statement_*` lemmas); so the engine prepares
each, on any connection and whatever the schema, as its own plan (`Engine.prepare_*`).

Running those plans changes only the state of the connection that runs them, and the committed
content when a commit publishes (`Engine.run_*`): `begin` and `savepoint` open a transaction,
`savepoint` pushing a savepoint that records whether it opened it; `release` drops the newest
savepoint of its name and every newer one, and commits when that savepoint opened the
transaction; `rollback to` drops only the newer ones; `commit` and `rollback` end it. A commit is
refused, as busy, exactly when the transaction wrote and another connection holds a lock on the
shared file (`Engine.lockedOut`); the transaction then stays open.
-/

namespace RecordMap.Sql

/-! ## Words joined by spaces -/

/-- A word the tokenizer reads whole: an ASCII letter, then characters that continue a word. -/
def plainWord : List Char → Bool
  | c :: cs => c.isAlpha && cs.all isWordChar
  | [] => false

/-- An ASCII letter is none of the characters that start something other than a word. -/
theorem letter_starts_word {c : Char} (hc : c.isAlpha = true) :
    isGap c = false ∧ c.toNat ≠ 0xFEFF ∧ c ≠ '-' ∧ c ≠ '/' ∧ c ≠ '\'' ∧ c ≠ '"' ∧ c.toNat ≠ 96 ∧
      c ≠ '[' ∧ isDigit c = false ∧ c ≠ '.' ∧ isWordStart c = true := by
  have hval : 65 ≤ c.toNat ∧ c.toNat ≤ 90 ∨ 97 ≤ c.toNat ∧ c.toNat ≤ 122 := by
    simp only [Char.isAlpha, Char.isUpper, Char.isLower, Bool.or_eq_true, Bool.and_eq_true,
      decide_eq_true_eq, ge_iff_le, UInt32.le_iff_toNat_le] at hc
    exact hc
  have hne : ∀ d : Char, (d.toNat < 65 ∨ 90 < d.toNat ∧ d.toNat < 97 ∨ 122 < d.toNat) → c ≠ d := by
    rintro d hd rfl
    omega
  refine ⟨?_, by omega, hne '-' (by decide), hne '/' (by decide), hne '\'' (by decide),
    hne '"' (by decide), by omega, hne '[' (by decide), ?_, hne '.' (by decide), ?_⟩
  · simp [isGap, hne ' ' (by decide), hne '\t' (by decide), hne '\n' (by decide),
      hne '\r' (by decide)]
    omega
  · simp only [isDigit, Bool.and_eq_false_iff, decide_eq_false_iff_not, Char.le_def,
      UInt32.le_iff_toNat_le]
    show ¬48 ≤ c.toNat ∨ ¬c.toNat ≤ 57
    omega
  · simp [isWordStart, hc]

/-- A word followed by the end of the text or a space is one word token. -/
theorem scanOne_word {c : Char} {cs rest : List Char} (hc : c.isAlpha = true)
    (hcs : ∀ d ∈ cs, isWordChar d = true) (hrest : ∀ d ∈ rest.head?, d = ' ') :
    scanOne (c :: (cs ++ rest)) = (some (.word (String.ofList (c :: cs))), 1 + cs.length) := by
  have hrest' : rest.takeWhile isWordChar = [] := by
    cases rest with
    | nil => rfl
    | cons d more =>
      have : d = ' ' := hrest d rfl
      subst this
      rfl
  have htake : (cs ++ rest).takeWhile isWordChar = cs := by
    rw [List.takeWhile_append_of_pos hcs, hrest', List.append_nil]
  -- no quote follows the first letter, so it starts no blob
  have hblob : ¬(cs.head? = some '\'' ∨ cs = [] ∧ rest.head? = some '\'') := by
    rintro (h | ⟨-, h⟩)
    · have := hcs '\'' (List.mem_of_head? h)
      simp [isWordChar] at this
    · have := hrest '\'' h
      simp at this
  have hword : (c :: (cs ++ rest)).take (1 + cs.length) = c :: cs := by
    rw [Nat.add_comm, List.take_succ_cons, List.take_left]
  obtain ⟨hgap, hbom, hdash, hslash, hq1, hq2, hq3, hbr, hdig, hdot, hstart⟩ := letter_starts_word hc
  simp [scanOne, hgap, hbom, hdash, hslash, hq1, hq2, hq3, hbr, hdig, hdot, hstart, htake, hblob,
    hword]

theorem tokenize_go_word {w rest : List Char} (hw : plainWord w = true)
    (hrest : ∀ d ∈ rest.head?, d = ' ') (offset index fuel : Nat) :
    tokenize.go (w ++ rest) offset index (fuel + 1) =
      ⟨.word (String.ofList w), String.ofList w, offset, index, index + w.length⟩ ::
        tokenize.go rest (offset + byteCount w) (index + w.length) fuel := by
  obtain ⟨c, cs, rfl⟩ : ∃ c cs, w = c :: cs := by
    cases w with
    | nil => cases hw
    | cons c cs => exact ⟨c, cs, rfl⟩
  simp only [plainWord, Bool.and_eq_true, List.all_eq_true] at hw
  have hlen : (c :: cs).length = 1 + cs.length := by simp [Nat.add_comm]
  have hmax : max (1 + cs.length) 1 = 1 + cs.length := by omega
  have htake : (c :: (cs ++ rest)).take (1 + cs.length) = c :: cs := by
    rw [Nat.add_comm, List.take_succ_cons, List.take_left]
  have hdrop : (c :: (cs ++ rest)).drop (1 + cs.length) = rest := by
    rw [Nat.add_comm, List.drop_succ_cons, List.drop_left]
  rw [List.cons_append, hlen]
  simp only [tokenize.go, scanOne_word hw.1 hw.2 hrest, hmax, htake, hdrop]
  simp [Nat.add_comm]

theorem tokenize_go_space {rest : List Char} (hrest : ∀ d ∈ rest.head?, isGap d = false)
    (offset index fuel : Nat) :
    tokenize.go (' ' :: rest) offset index (fuel + 1) =
      tokenize.go rest (offset + 1) (index + 1) fuel := by
  have hgaps : rest.takeWhile isGap = [] := by
    cases rest with
    | nil => rfl
    | cons d more => simp [hrest d rfl]
  have hscan : scanOne (' ' :: rest) = (none, 1) := by
    simp [scanOne, isGap, hgaps]
  simp only [tokenize.go, hscan]
  rfl

theorem tokenize_go_spaced (ws : List (List Char)) (hws : ∀ w ∈ ws, plainWord w = true) :
    ∀ (offset index fuel : Nat), (List.intercalate [' '] ws).length ≤ fuel →
      (tokenize.go (List.intercalate [' '] ws) offset index (fuel + 1)).map (·.kind) =
        ws.map (fun w => .word (String.ofList w)) ++ [.finish] := by
  induction ws with
  | nil => intro offset index fuel _; rfl
  | cons w more ih =>
    intro offset index fuel hfuel
    cases more with
    | nil =>
      have hw := tokenize_go_word (hws w (by simp)) (fun d (hd : d ∈ ([] : List Char).head?) => by simp at hd)
        offset index fuel
      rw [List.append_nil] at hw
      simp only [List.intercalate_singleton]
      rw [hw]
      cases fuel <;> rfl
    | cons w' rest =>
      have hw' := hws w' (by simp)
      obtain ⟨c', cs', rfl⟩ : ∃ c' cs', w' = c' :: cs' := by
        cases w' with
        | nil => cases hw'
        | cons c' cs' => exact ⟨c', cs', rfl⟩
      have hc' : c'.isAlpha = true := by
        simp only [plainWord, Bool.and_eq_true] at hw'
        exact hw'.1
      have hsplit : List.intercalate [' '] (w :: (c' :: cs') :: rest) =
          w ++ ' ' :: List.intercalate [' '] ((c' :: cs') :: rest) := by
        simp [List.intercalate_cons_cons]
      -- the next word starts with a letter, which is no blank
      have hgap : ∀ d ∈ (List.intercalate [' '] ((c' :: cs') :: rest)).head?, isGap d = false := by
        intro d hd
        have hhead : (List.intercalate [' '] ((c' :: cs') :: rest)).head? = some c' := by
          cases rest <;> simp [List.intercalate_cons_cons]
        rw [hhead, Option.mem_some_iff] at hd
        subst hd
        exact (letter_starts_word hc').1
      have hwlen : 1 ≤ w.length := by
        cases w with
        | nil => cases hws [] (by simp)
        | cons => simp
      rw [hsplit] at hfuel ⊢
      simp only [List.length_append, List.length_cons] at hfuel
      obtain ⟨g, rfl⟩ : ∃ g, fuel = g + 1 + 1 := ⟨fuel - 2, by omega⟩
      rw [tokenize_go_word (hws w (by simp)) (by simp), List.map_cons,
        tokenize_go_space hgap, ih (fun v hv => hws v (by simp [hv])) _ _ g (by omega)]
      rfl

theorem tokenize_spaced {text : String} (ws : List (List Char))
    (htext : text.toList = List.intercalate [' '] ws) (hws : ∀ w ∈ ws, plainWord w = true) :
    (tokenize text).map (·.kind) = ws.map (fun w => .word (String.ofList w)) ++ [.finish] := by
  unfold tokenize
  rw [htext]
  exact tokenize_go_spaced ws hws 0 0 _ (by rw [← htext, String.length_toList])

theorem keywordList_no_digit :
    keywordList.all (fun k => k.toList.all (fun ch => !ch.isDigit)) = true := by
  decide +kernel

theorem isKeyword_of_digit {w : String} {d : Char} (hd : d ∈ w.toList) (hdigit : d.isDigit = true) :
    isKeyword w = false := by
  have hall := keywordList_no_digit
  simp only [List.all_eq_true, Bool.not_eq_true'] at hall
  cases h : isKeyword w with
  | false => rfl
  | true =>
    have hmem : w ∈ keywordList := by simpa [isKeyword] using h
    have := hall w hmem d hd
    rw [hdigit] at this
    cases this

/-! ## Reading the statements -/

namespace Parser

variable {src : Lexed} {st : ParseState}

theorem upper?_of_word {t : Token} {w : String} (k : t.kind = .word w) : t.upper? = some w.toUpper := by
  simp [Token.upper?, k]

theorem isWord_of_word {t : Token} {w : String} (k : t.kind = .word w) (u : String) :
    t.isWord u = (w.toUpper == u) := by
  simp [Token.isWord, upper?_of_word k]

theorem isWord_finish {t : Token} (k : t.kind = .finish) (u : String) : t.isWord u = false := by
  simp [Token.isWord, Token.upper?, k]

theorem nm?_finish {t : Token} (k : t.kind = .finish) : t.nm? = none := by
  simp [Token.nm?, Token.idj?, Token.id?, Token.plainName?, Token.isWord, Token.upper?, k]

theorem transactionWord_of_not {t : Token} (ht : src.tokens.getD st.pos (lastToken src) = t)
    (hl : (t.kind == .illegal) = false) (hw : t.isWord "TRANSACTION" = false) :
    transactionWord src st = .ok ((), st) := by
  unfold transactionWord
  rw [bind_of_ok _ (by rw [acceptWord_eq ht hl, hw]; rfl)]
  rfl

theorem transactionWord_of_word {t u : Token} (ht : src.tokens.getD st.pos (lastToken src) = t)
    (hl : (t.kind == .illegal) = false) (hw : t.isWord "TRANSACTION" = true)
    (hu : src.tokens.getD (st.pos + 1) (lastToken src) = u) (ku : u.kind = .finish) :
    transactionWord src st = .ok ((), st.next) := by
  unfold transactionWord
  rw [bind_of_ok _ (by rw [acceptWord_eq ht hl, if_pos hw]), if_pos rfl,
    bind_of_ok _ (current_eq hu (by rw [ku]; rfl)), nm?_finish ku]
  rfl

theorem statement_savepoint {fuel : Nat} {t0 t1 : Token} {name : String}
    (h0 : src.tokens.getD st.pos (lastToken src) = t0) (k0 : t0.kind = .word "savepoint")
    (h1 : src.tokens.getD (st.pos + 1) (lastToken src) = t1) (k1 : t1.kind = .word name)
    (hn : t1.nm? = some name) :
    statement fuel src st = .ok (.savepoint name, st.next.next) := by
  have hu0 : t0.upper? = some "SAVEPOINT" := by
    rw [upper?_of_word k0]
    decide +kernel
  have hnm : nm src st.next = .ok ((name, t1), st.next.next) := by
    unfold nm
    rw [takeWith_eq h1 (by rw [k1]; rfl), hn]
  unfold statement
  rw [bind_of_ok _ (current_eq h0 (by rw [k0]; rfl))]
  simp only [hu0]
  rw [bind_of_ok _ advance_eq, bind_of_ok _ hnm]
  rfl

theorem statement_release {fuel : Nat} {t0 t1 : Token} {name : String}
    (h0 : src.tokens.getD st.pos (lastToken src) = t0) (k0 : t0.kind = .word "release")
    (h1 : src.tokens.getD (st.pos + 1) (lastToken src) = t1) (k1 : t1.kind = .word name)
    (hs : t1.isWord "SAVEPOINT" = false) (hn : t1.nm? = some name) :
    statement fuel src st = .ok (.release name, st.next.next) := by
  have hu0 : t0.upper? = some "RELEASE" := by
    rw [upper?_of_word k0]
    decide +kernel
  have hnm : nm src st.next = .ok ((name, t1), st.next.next) := by
    unfold nm
    rw [takeWith_eq h1 (by rw [k1]; rfl), hn]
  unfold statement
  rw [bind_of_ok _ (current_eq h0 (by rw [k0]; rfl))]
  simp only [hu0]
  rw [bind_of_ok _ advance_eq,
    bind_of_ok _ (by rw [acceptWord_eq h1 (by rw [k1]; rfl), hs]; rfl), bind_of_ok _ hnm]
  rfl

theorem statement_rollbackTo {fuel : Nat} {t0 t1 t2 : Token} {name : String}
    (h0 : src.tokens.getD st.pos (lastToken src) = t0) (k0 : t0.kind = .word "rollback")
    (h1 : src.tokens.getD (st.pos + 1) (lastToken src) = t1) (k1 : t1.kind = .word "to")
    (h2 : src.tokens.getD (st.pos + 1 + 1) (lastToken src) = t2) (k2 : t2.kind = .word name)
    (hs : t2.isWord "SAVEPOINT" = false) (hn : t2.nm? = some name) :
    statement fuel src st = .ok (.rollback (some name), st.next.next.next) := by
  have hu0 : t0.upper? = some "ROLLBACK" := by
    rw [upper?_of_word k0]
    decide +kernel
  have hto : t1.isWord "TO" = true := by
    rw [isWord_of_word k1]
    decide +kernel
  have htr : t1.isWord "TRANSACTION" = false := by
    rw [isWord_of_word k1]
    decide +kernel
  have hnm : nm src st.next.next = .ok ((name, t2), st.next.next.next) := by
    unfold nm
    rw [takeWith_eq h2 (by rw [k2]; rfl), hn]
  unfold statement
  rw [bind_of_ok _ (current_eq h0 (by rw [k0]; rfl))]
  simp only [hu0]
  rw [bind_of_ok _ advance_eq, bind_of_ok _ (transactionWord_of_not h1 (by rw [k1]; rfl) htr),
    bind_of_ok _ (by rw [acceptWord_eq h1 (by rw [k1]; rfl), if_pos hto])]
  simp only [if_true]
  rw [bind_of_ok _ (by rw [acceptWord_eq h2 (by rw [k2]; rfl), hs]; rfl), bind_of_ok _ hnm]
  rfl


theorem statement_begin {fuel : Nat} {t0 t1 t2 : Token}
    (h0 : src.tokens.getD st.pos (lastToken src) = t0) (k0 : t0.kind = .word "begin")
    (h1 : src.tokens.getD (st.pos + 1) (lastToken src) = t1) (k1 : t1.kind = .word "transaction")
    (h2 : src.tokens.getD (st.pos + 1 + 1) (lastToken src) = t2) (k2 : t2.kind = .finish) :
    statement fuel src st = .ok (.begin .deferred, st.next.next) := by
  have hu0 : t0.upper? = some "BEGIN" := by
    rw [upper?_of_word k0]
    decide +kernel
  have hnot : ∀ u ∈ ["IMMEDIATE", "EXCLUSIVE", "DEFERRED"], acceptWord u src st.next = .ok (false, st.next) := by
    intro u hu
    rw [acceptWord_eq h1 (by rw [k1]; rfl), isWord_of_word k1]
    simp only [List.mem_cons, List.not_mem_nil, or_false] at hu
    rcases hu with rfl | rfl | rfl <;> rw [if_neg (by decide +kernel)]
  have htr : t1.isWord "TRANSACTION" = true := by
    rw [isWord_of_word k1]
    decide +kernel
  unfold statement
  rw [bind_of_ok _ (current_eq h0 (by rw [k0]; rfl))]
  simp only [hu0]
  rw [bind_of_ok _ advance_eq, bind_of_ok _ (hnot "IMMEDIATE" (by simp))]
  simp only [Bool.false_eq_true, if_false]
  rw [bind_of_ok _ (hnot "EXCLUSIVE" (by simp))]
  simp only [Bool.false_eq_true, if_false]
  rw [bind_of_ok _ (hnot "DEFERRED" (by simp)), pure_bind,
    bind_of_ok _ (transactionWord_of_word h1 (by rw [k1]; rfl) htr h2 k2)]
  rfl

theorem statement_commit {fuel : Nat} {t0 t1 : Token}
    (h0 : src.tokens.getD st.pos (lastToken src) = t0) (k0 : t0.kind = .word "commit")
    (h1 : src.tokens.getD (st.pos + 1) (lastToken src) = t1) (k1 : t1.kind = .finish) :
    statement fuel src st = .ok (.commit, st.next) := by
  have hu0 : t0.upper? = some "COMMIT" := by
    rw [upper?_of_word k0]
    decide +kernel
  unfold statement
  rw [bind_of_ok _ (current_eq h0 (by rw [k0]; rfl))]
  simp only [hu0]
  rw [bind_of_ok _ advance_eq,
    bind_of_ok _ (transactionWord_of_not h1 (by rw [k1]; rfl) (isWord_finish k1 _))]
  rfl

theorem statement_rollback {fuel : Nat} {t0 t1 : Token}
    (h0 : src.tokens.getD st.pos (lastToken src) = t0) (k0 : t0.kind = .word "rollback")
    (h1 : src.tokens.getD (st.pos + 1) (lastToken src) = t1) (k1 : t1.kind = .finish) :
    statement fuel src st = .ok (.rollback none, st.next) := by
  have hu0 : t0.upper? = some "ROLLBACK" := by
    rw [upper?_of_word k0]
    decide +kernel
  unfold statement
  rw [bind_of_ok _ (current_eq h0 (by rw [k0]; rfl))]
  simp only [hu0]
  rw [bind_of_ok _ advance_eq,
    bind_of_ok _ (transactionWord_of_not h1 (by rw [k1]; rfl) (isWord_finish k1 _)),
    bind_of_ok _ (by rw [acceptWord_eq h1 (by rw [k1]; rfl), isWord_finish k1]; rfl)]
  rfl

end Parser

open RecordMap.Sql.Parser

theorem kind_getD_of_map {l : List Token} {ks : List TokenKind} (h : l.map (·.kind) = ks) {i : Nat}
    (hi : i < ks.length) (d : Token) : (l.toArray.getD i d).kind = ks[i] := by
  subst h
  simp only [List.length_map] at hi
  simp [Array.getD, hi]

/-- A text whose first token is a word, and whose first statement ends where its tokens end,
is that one statement with no parameters. -/
theorem parse_of_statement {text : String} {s : Statement} {n : Nat} {w : String}
    (h0 : ((tokenize text).toArray.getD 0
      (lastToken ⟨(tokenize text).toArray, text.toList.toArray⟩)).kind = .word w)
    (hst : statement (16 * (tokenize text).toArray.size + 64)
      ⟨(tokenize text).toArray, text.toList.toArray⟩ ⟨0, #[]⟩ = .ok (s, ⟨n, #[]⟩))
    (hn : ((tokenize text).toArray.getD n
      (lastToken ⟨(tokenize text).toArray, text.toList.toArray⟩)).kind = .finish) :
    parse text = .ok ⟨some s, [], text.length⟩ := by
  have hskip : skipSemicolons (tokenize text).toArray.size ⟨(tokenize text).toArray, text.toList.toArray⟩
      ⟨0, #[]⟩ = .ok ((), ⟨0, #[]⟩) :=
    skipSemicolons_eq rfl (by rw [h0]; rfl) (by rw [Token.isSymbol, h0]; rfl) _
  have hfinish : (((tokenize text).toArray.getD 0
      (lastToken ⟨(tokenize text).toArray, text.toList.toArray⟩)).kind == .finish) = false := by
    rw [h0]
    rfl
  unfold parse
  dsimp only [ReaderT.run, StateT.run]
  rw [bind_of_ok _ hskip, bind_of_ok _ (current_eq rfl (by rw [h0]; rfl))]
  dsimp only
  simp only [hfinish, Bool.false_eq_true, if_false]
  rw [bind_of_ok _ hst, bind_of_ok _ (current_eq rfl (by rw [hn]; rfl))]
  simp only [Token.isSymbol, hn]
  rfl

end RecordMap.Sql

namespace RecordMap.SavepointSpelling

open RecordMap.Sql

variable {token : String} {random depth : List Char} (h : SavepointSpelling token random depth)
include h

theorem chars_upper : ∀ c ∈ token.toList, c = 'S' ∨ c = 'D' ∨ c.isDigit = true := by
  intro c hc
  rw [h.spelled] at hc
  simp only [List.mem_cons, List.mem_append] at hc
  rcases hc with rfl | hc | rfl | hc
  · exact .inl rfl
  · exact .inr (.inr (h.random_digits.2 c hc))
  · exact .inr (.inl rfl)
  · exact .inr (.inr (h.depth_digits.2 c hc))

/-- A savepoint name is its own upper case. -/
theorem toUpper_eq : token.toUpper = token := by
  apply String.toList_injective
  simp only [String.toUpper, String.toList_map]
  conv => rhs; rw [← List.map_id token.toList]
  apply List.map_congr_left
  intro c hc
  -- every character of the name sits below the lower-case letters
  have hbelow : c.toNat < 97 := by
    rcases chars_upper h c hc with rfl | rfl | hd
    · decide
    · decide
    · simp only [Char.isDigit, Bool.and_eq_true, decide_eq_true_eq, UInt32.le_iff_toNat_le] at hd
      change 48 ≤ c.toNat ∧ c.toNat ≤ 57 at hd
      omega
  simp only [Char.toUpper, id_eq]
  split
  · rename_i hlow
    have : 97 ≤ c.toNat := UInt32.le_iff_toNat_le.1 hlow.1
    omega
  · rfl

theorem plainWord_toList : plainWord token.toList = true := by
  have hword : ∀ c ∈ token.toList, isWordChar c = true := by
    intro c hc
    rcases chars_upper h c hc with rfl | rfl | hd
    · rfl
    · rfl
    · simp [isWordChar, Char.isAlphanum, hd]
  rw [h.spelled] at hword ⊢
  simp only [plainWord, Bool.and_eq_true, List.all_eq_true]
  exact ⟨rfl, fun c hc => hword c (List.mem_cons_of_mem _ hc)⟩

theorem isKeyword_eq : isKeyword token = false := by
  obtain ⟨d, hd⟩ : ∃ d, d ∈ random := List.exists_mem_of_ne_nil _ h.random_digits.1
  exact isKeyword_of_digit (by rw [h.spelled]; simp [hd]) (h.random_digits.2 d hd)

theorem nm?_eq {t : Token} (k : t.kind = .word token) : t.nm? = some token := by
  simp [Token.nm?, Token.idj?, Token.id?, Token.plainName?, k, toUpper_eq h, isKeyword_eq h]

theorem isWord_savepoint {t : Token} (k : t.kind = .word token) : t.isWord "SAVEPOINT" = false := by
  -- the keyword holds no digit, the name does
  have hne : token ≠ "SAVEPOINT" := by
    rintro rfl
    obtain ⟨d, hd⟩ : ∃ d, d ∈ random := List.exists_mem_of_ne_nil _ h.random_digits.1
    have hin : d ∈ "SAVEPOINT".toList := by rw [h.spelled]; simp [hd]
    have hnone : "SAVEPOINT".toList.all (fun c => !c.isDigit) = true := by decide
    have hdigit := h.random_digits.2 d hd
    have := List.all_eq_true.1 hnone d hin
    rw [hdigit] at this
    cases this
  simp [Token.isWord, Token.upper?, k, toUpper_eq h, hne]

end RecordMap.SavepointSpelling

namespace RecordMap.Sql


/-! ## The six texts -/

open RecordMap.Sql.Parser

section Texts

variable {text name : String} {random depth : List Char}

theorem kinds_at {ks : List TokenKind} (hk : (tokenize text).map (·.kind) = ks) {i : Nat}
    (hi : i < ks.length) :
    ((tokenize text).toArray.getD i (lastToken ⟨(tokenize text).toArray, text.toList.toArray⟩)).kind =
      ks[i] :=
  kind_getD_of_map hk hi _

theorem parse_begin (htext : text.toList = "begin".toList ++ ' ' :: "transaction".toList) :
    parse text = .ok ⟨some (.begin .deferred), [], text.length⟩ := by
  have hk := tokenize_spaced ["begin".toList, "transaction".toList]
    (by rw [htext]; simp [List.intercalate_cons_cons]) (by decide)
  simp only [List.map_cons, List.map_nil, String.ofList_toList, List.cons_append,
    List.nil_append] at hk
  exact parse_of_statement (kinds_at hk (i := 0) (by simp))
    (statement_begin rfl (kinds_at hk (i := 0) (by simp)) rfl (kinds_at hk (i := 1) (by simp)) rfl
      (kinds_at hk (i := 2) (by simp)))
    (kinds_at hk (i := 2) (by simp))

theorem parse_commit (htext : text.toList = "commit".toList) :
    parse text = .ok ⟨some .commit, [], text.length⟩ := by
  have hk := tokenize_spaced ["commit".toList] (by rw [htext]; rfl) (by decide)
  simp only [List.map_cons, List.map_nil, String.ofList_toList, List.cons_append,
    List.nil_append] at hk
  exact parse_of_statement (kinds_at hk (i := 0) (by simp))
    (statement_commit rfl (kinds_at hk (i := 0) (by simp)) rfl (kinds_at hk (i := 1) (by simp)))
    (kinds_at hk (i := 1) (by simp))

theorem parse_rollback (htext : text.toList = "rollback".toList) :
    parse text = .ok ⟨some (.rollback none), [], text.length⟩ := by
  have hk := tokenize_spaced ["rollback".toList] (by rw [htext]; rfl) (by decide)
  simp only [List.map_cons, List.map_nil, String.ofList_toList, List.cons_append,
    List.nil_append] at hk
  exact parse_of_statement (kinds_at hk (i := 0) (by simp))
    (statement_rollback rfl (kinds_at hk (i := 0) (by simp)) rfl (kinds_at hk (i := 1) (by simp)))
    (kinds_at hk (i := 1) (by simp))

variable (h : SavepointSpelling name random depth)
include h

theorem parse_savepoint (htext : text.toList = "savepoint".toList ++ ' ' :: name.toList) :
    parse text = .ok ⟨some (.savepoint name), [], text.length⟩ := by
  have hk := tokenize_spaced ["savepoint".toList, name.toList]
    (by rw [htext]; simp [List.intercalate_cons_cons])
    (by simp [h.plainWord_toList]; decide)
  simp only [List.map_cons, List.map_nil, String.ofList_toList, List.cons_append,
    List.nil_append] at hk
  exact parse_of_statement (kinds_at hk (i := 0) (by simp))
    (statement_savepoint rfl (kinds_at hk (i := 0) (by simp)) rfl (kinds_at hk (i := 1) (by simp))
      (h.nm?_eq (kinds_at hk (i := 1) (by simp))))
    (kinds_at hk (i := 2) (by simp))

theorem parse_release (htext : text.toList = "release".toList ++ ' ' :: name.toList) :
    parse text = .ok ⟨some (.release name), [], text.length⟩ := by
  have hk := tokenize_spaced ["release".toList, name.toList]
    (by rw [htext]; simp [List.intercalate_cons_cons])
    (by simp [h.plainWord_toList]; decide)
  simp only [List.map_cons, List.map_nil, String.ofList_toList, List.cons_append,
    List.nil_append] at hk
  exact parse_of_statement (kinds_at hk (i := 0) (by simp))
    (statement_release rfl (kinds_at hk (i := 0) (by simp)) rfl (kinds_at hk (i := 1) (by simp))
      (h.isWord_savepoint (kinds_at hk (i := 1) (by simp)))
      (h.nm?_eq (kinds_at hk (i := 1) (by simp))))
    (kinds_at hk (i := 2) (by simp))

theorem parse_rollbackTo
    (htext : text.toList = "rollback".toList ++ ' ' :: "to".toList ++ ' ' :: name.toList) :
    parse text = .ok ⟨some (.rollback (some name)), [], text.length⟩ := by
  have hk := tokenize_spaced ["rollback".toList, "to".toList, name.toList]
    (by rw [htext]; simp [List.intercalate_cons_cons]) (by simp [h.plainWord_toList]; decide)
  simp only [List.map_cons, List.map_nil, String.ofList_toList, List.cons_append,
    List.nil_append] at hk
  exact parse_of_statement (kinds_at hk (i := 0) (by simp))
    (statement_rollbackTo rfl (kinds_at hk (i := 0) (by simp)) rfl (kinds_at hk (i := 1) (by simp))
      rfl (kinds_at hk (i := 2) (by simp)) (h.isWord_savepoint (kinds_at hk (i := 2) (by simp)))
      (h.nm?_eq (kinds_at hk (i := 2) (by simp))))
    (kinds_at hk (i := 3) (by simp))

end Texts


/-! ## Preparing them -/

theorem Engine.prepare_of_parse {e : Engine} {i : Nat} {text : String} {s : Statement}
    {plan : Plan} (hp : parse text = .ok ⟨some s, [], text.length⟩)
    (hc : compileStatement (e.view i) (e.handle i).foreignKeys (some s) = .ok (plan, [])) :
    e.prepare i text = .ok ⟨text, [], some s, plan, [], (e.view i).schemaVersion⟩ := by
  have htext : String.ofList (text.toList.take text.length) = text := by
    rw [List.take_of_length_le (by rw [String.length_toList]), String.ofList_toList]
  unfold Engine.prepare
  rw [hp]
  change (compileStatement (e.view i) (e.handle i).foreignKeys (some s) >>= _) = _
  rw [hc]
  change Except.ok _ = _
  rw [htext]

/-! ## Running them -/

/-- An engine with the state of one connection changed. -/
def Engine.updateHandle (e : Engine) (i : Nat) (f : Handle → Handle) : Engine :=
  { e with handles := e.handles.modify i f }

namespace Engine

variable {e : Engine} {i : Nat} {f : Handle → Handle}

@[simp] theorem sharing_updateHandle : (e.updateHandle i f).sharing = e.sharing := rfl

@[simp] theorem stores_updateHandle : (e.updateHandle i f).stores = e.stores := rfl

@[simp] theorem size_updateHandle : (e.updateHandle i f).handles.size = e.handles.size := by
  simp [updateHandle]

theorem handle_updateHandle_self (hi : i < e.handles.size) :
    (e.updateHandle i f).handle i = f (e.handle i) := by
  simp [updateHandle, Engine.handle, Array.getD, hi, Array.getElem_modify]

theorem handle_updateHandle_ne {j : Nat} (hj : j ≠ i) : (e.updateHandle i f).handle j = e.handle j := by
  by_cases hs : j < e.handles.size
  · simp [updateHandle, Engine.handle, Array.getD, hs, Array.getElem_modify, Ne.symm hj]
  · simp [updateHandle, Engine.handle, Array.getD, hs]

end Engine

/-- The state of a connection as its transaction ends: no copy, no savepoints, no locks. -/
def Handle.ended (h : Handle) : Handle :=
  { h with autocommit := true, work := none, savepoints := [], lock := .none,
           reads := [], writes := [], writer := false, deferredViolations := 0 }

/-- The state of a connection as a `savepoint` statement leaves it: a new newest savepoint that
records whether it opened the transaction. -/
def Handle.pushSavepoint (name : String) (h : Handle) : Handle :=
  { h with savepoints := ⟨name, h.work, h.autocommit, h.deferredViolations⟩ :: h.savepoints,
           autocommit := false }

/-- Whether another open connection holds a lock on the shared file of connection `i`, so that
connection `i` cannot take the exclusive lock. -/
def Engine.lockedOut (e : Engine) (i : Nat) : Bool :=
  e.sharing == .files && (e.others i).any fun h => h.lock.rank ≥ Lock.shared.rank

namespace Step

theorem update_eq (i : Nat) (f : Handle → Handle) (e : Engine) :
    update i f e = .ok () (e.updateHandle i f) := rfl

theorem handle_eq (i : Nat) (e : Engine) : handle i e = .ok (e.handle i) e := rfl

theorem endTransaction_eq (i : Nat) : endTransaction i = update i Handle.ended := rfl

theorem takeExclusive_of_lockedOut {e : Engine} {i : Nat} (hl : e.lockedOut i = true) :
    takeExclusive i e = .error Fault.busy (e.updateHandle i fun h => { h with lock := .pending }) := by
  simp only [Engine.lockedOut, Bool.and_eq_true] at hl
  unfold takeExclusive
  rw [get_bind, if_pos hl.1, if_pos hl.2]
  rfl

theorem takeExclusive_of_not_lockedOut {e : Engine} {i : Nat} (hl : e.lockedOut i = false) :
    ∃ g : Handle → Handle, takeExclusive i e = .ok () (if e.sharing == .files then e.updateHandle i g else e) ∧
      ∀ h, g h = { h with lock := .exclusive } := by
  refine ⟨fun h => { h with lock := .exclusive }, ?_, fun _ => rfl⟩
  unfold takeExclusive
  rw [get_bind]
  by_cases hs : (e.sharing == .files) = true
  · have ha : ((e.others i).any fun h => h.lock.rank ≥ Lock.shared.rank) = false := by
      simpa [Engine.lockedOut, hs] using hl
    rw [if_pos hs, if_neg (by simp [ha]), if_pos hs]
    rfl
  · rw [if_neg hs, if_neg hs]
    rfl

end Step


/-- Two engines alike except in the state of connection `i` and in the committed content: the
same sharing, the same connections, and connection `i` still open on the same database. -/
structure Engine.Frame (i : Nat) (e e' : Engine) : Prop where
  sharing : e'.sharing = e.sharing
  size : e'.handles.size = e.handles.size
  others : ∀ j, j ≠ i → e'.handle j = e.handle j
  database : (e'.handle i).database = (e.handle i).database
  live : (e'.handle i).live = (e.handle i).live

namespace Engine.Frame

variable {i : Nat} {e e₁ e₂ : Engine}

theorem refl (i : Nat) (e : Engine) : Frame i e e := ⟨rfl, rfl, fun _ _ => rfl, rfl, rfl⟩

theorem trans (h₁ : Frame i e e₁) (h₂ : Frame i e₁ e₂) : Frame i e e₂ :=
  ⟨h₂.sharing.trans h₁.sharing, h₂.size.trans h₁.size,
    fun j hj => (h₂.others j hj).trans (h₁.others j hj), h₂.database.trans h₁.database,
    h₂.live.trans h₁.live⟩

theorem updateHandle {f : Handle → Handle} (hi : i < e.handles.size)
    (hf : ∀ h, (f h).database = h.database ∧ (f h).live = h.live) : Frame i e (e.updateHandle i f) :=
  ⟨rfl, size_updateHandle, fun _ hj => handle_updateHandle_ne hj,
    by rw [handle_updateHandle_self hi, (hf _).1], by rw [handle_updateHandle_self hi, (hf _).2]⟩

end Engine.Frame

namespace Step

theorem bind_of_eq_error {α γ : Type} {p : Step α} (f : α → Step γ) {e e₁ : Engine} {x : Fault}
    (h : p e = .error x e₁) : (p >>= f) e = .error x e₁ := by
  change EStateM.bind p f e = _
  unfold EStateM.bind
  rw [h]

variable {e : Engine} {i : Nat}

theorem commitWork_of_lockedOut (hw : (e.handle i).work.isSome = true) (hl : e.lockedOut i = true) :
    commitWork i e = .error Fault.busy (e.updateHandle i fun h => { h with lock := .pending }) := by
  obtain ⟨s, hs⟩ := Option.isSome_iff_exists.1 hw
  unfold commitWork
  rw [bind_of_eq_ok _ (handle_eq i e)]
  simp only [hs]
  unfold publish
  rw [bind_of_eq_error _ (bind_of_eq_error _ (takeExclusive_of_lockedOut hl))]

/-- Any other commit ends the transaction, publishing what it wrote. -/
theorem commitWork_of_granted (hi : i < e.handles.size)
    (hg : ((e.handle i).work.isSome && e.lockedOut i) = false) :
    ∃ e', commitWork i e = .ok () e' ∧ e'.handle i = (e.handle i).ended ∧ Engine.Frame i e e' ∧
      e'.stores.size = e.stores.size ∧
      ((e.handle i).database < e.stores.size → e'.view i = e.view i) := by
  unfold commitWork
  rw [bind_of_eq_ok _ (handle_eq i e)]
  cases hw : (e.handle i).work with
  | none =>
    refine ⟨e.updateHandle i Handle.ended, ?_, Engine.handle_updateHandle_self hi,
      Engine.Frame.updateHandle hi fun _ => ⟨rfl, rfl⟩, rfl, fun _ => ?_⟩
    · rfl
    · -- nothing was written: the connection sees the committed content, as it did
      show ((e.updateHandle i Handle.ended).handle i).work.getD _ = (e.handle i).work.getD _
      rw [Engine.handle_updateHandle_self hi, hw]
      rfl
  | some s =>
    have hl : e.lockedOut i = false := by simpa [hw] using hg
    obtain ⟨g, hx, hg⟩ := takeExclusive_of_not_lockedOut hl
    -- taking the lock changes only the lock of connection `i`, which ending the transaction drops
    let e₁ := if e.sharing == .files then e.updateHandle i g else e
    have h₁ : (e₁.handle i).ended = (e.handle i).ended ∧ Engine.Frame i e e₁ ∧ e₁.stores = e.stores := by
      by_cases hs : (e.sharing == .files) = true
      · have he : e₁ = e.updateHandle i g := if_pos hs
        rw [he]
        refine ⟨by rw [Engine.handle_updateHandle_self hi, hg]; rfl,
          Engine.Frame.updateHandle hi fun h => ⟨by rw [hg], by rw [hg]⟩, rfl⟩
      · have he : e₁ = e := if_neg hs
        rw [he]
        exact ⟨rfl, Engine.Frame.refl i e, rfl⟩
    have hsize₁ : i < e₁.handles.size := by rw [h₁.2.1.size]; exact hi
    let e₂ : Engine := { e₁ with stores := e₁.stores.modify (e₁.handle i).database fun _ => s }
    have hpub : publish i s e = .ok () e₂ := by
      unfold publish
      rw [bind_of_eq_ok _ hx, bind_of_eq_ok _ (handle_eq i _)]
      rfl
    refine ⟨e₂.updateHandle i Handle.ended, ?_, ?_, ?_, ?_, fun hdb => ?_⟩
    · show (do publish i s; endTransaction i) e = _
      rw [bind_of_eq_ok _ hpub]
      rfl
    · rw [Engine.handle_updateHandle_self (e := e₂) hsize₁]
      exact h₁.1
    · -- publishing changes only the committed content
      have h₂ : Engine.Frame i e₁ e₂ := ⟨rfl, rfl, fun _ _ => rfl, rfl, rfl⟩
      exact h₁.2.1.trans (h₂.trans (Engine.Frame.updateHandle (f := Handle.ended) hsize₁
        fun _ => ⟨rfl, rfl⟩))
    · show (e₁.stores.modify _ _).size = e.stores.size
      rw [Array.size_modify, h₁.2.2]
    · -- what was written is now the committed content
      show ((e₂.updateHandle i Handle.ended).handle i).work.getD
          (e₂.stores.getD ((e₂.updateHandle i Handle.ended).handle i).database Store.empty) =
        (e.handle i).work.getD _
      rw [Engine.handle_updateHandle_self (e := e₂) hsize₁, hw]
      show (e₁.stores.modify (e₁.handle i).database fun _ => s).getD (e₁.handle i).database
        Store.empty = s
      rw [h₁.2.2, h₁.2.1.database]
      simp [Array.getD_eq_getD_getElem?, Array.getElem_modify, hdb]

end Step


/-! ### The plans -/

section Run

variable {e : Engine} {i : Nat} {p : Prepared} (params : Array Datum)
  (hv : (e.view i).schemaVersion = p.schema)
include hv

theorem Engine.run_savepoint {name : String} (hp : p.plan = .savepoint name) :
    Engine.run i p params e =
      .ok ⟨p.columns, [], none⟩ (e.updateHandle i (Handle.pushSavepoint name)) := by
  rw [Engine.run_of_schema params hv, hp]
  unfold Engine.runPlan
  rfl

theorem Engine.run_begin (hp : p.plan = .begin .deferred) (ha : (e.handle i).autocommit = true) :
    Engine.run i p params e =
      .ok ⟨p.columns, [], none⟩ (e.updateHandle i fun h => { h with autocommit := false }) := by
  rw [Engine.run_of_schema params hv, hp]
  unfold Engine.runPlan
  dsimp only
  rw [Step.bind_of_eq_ok _ (Step.handle_eq i e)]
  simp only [ha, Bool.not_true, Bool.false_eq_true, if_false]
  rfl

theorem Engine.run_rollback (hp : p.plan = .rollback) (ha : (e.handle i).autocommit = false) :
    Engine.run i p params e = .ok ⟨p.columns, [], none⟩ (e.updateHandle i Handle.ended) := by
  rw [Engine.run_of_schema params hv, hp]
  unfold Engine.runPlan
  dsimp only
  rw [Step.bind_of_eq_ok _ (Step.handle_eq i e)]
  simp only [ha, Bool.false_eq_true, if_false]
  rfl

/-- A `commit` inside a transaction is refused while deferred foreign keys are violated, and
otherwise commits. -/
theorem Engine.run_commit (hp : p.plan = .commit) (ha : (e.handle i).autocommit = false) :
    Engine.run i p params e =
      if 0 < (e.handle i).deferredViolations then .error Fault.foreignKey e
      else (do Step.commitWork i; pure (⟨p.columns, [], none⟩ : Output)) e := by
  rw [Engine.run_of_schema params hv, hp]
  unfold Engine.runPlan
  dsimp only
  rw [Step.bind_of_eq_ok _ (Step.handle_eq i e)]
  simp only [ha, Bool.false_eq_true, if_false]
  by_cases hd : 0 < (e.handle i).deferredViolations
  · rw [if_pos hd, if_pos hd]
    rfl
  · rw [if_neg hd, if_neg hd]

variable {name : String}

theorem Engine.run_unknown_savepoint (hp : p.plan = .release name ∨ p.plan = .rollbackTo name)
    (hf : Step.findSavepoint (e.handle i) name = none) :
    ∃ msg, Engine.run i p params e = .error (Fault.error msg) e := by
  rcases hp with hp | hp <;> rw [Engine.run_of_schema params hv, hp] <;> unfold Engine.runPlan <;>
    dsimp only <;>
    rw [Step.bind_of_eq_ok _ (Step.handle_eq i e)] <;> simp only [hf] <;> exact ⟨_, rfl⟩

theorem Engine.run_release_inner {sp : Savepoint} {k : Nat} (hp : p.plan = .release name)
    (hf : Step.findSavepoint (e.handle i) name = some (sp, k)) (hb : sp.begins = false) :
    Engine.run i p params e = .ok ⟨p.columns, [], none⟩
      (e.updateHandle i fun h => { h with savepoints := h.savepoints.drop (k + 1) }) := by
  rw [Engine.run_of_schema params hv, hp]
  unfold Engine.runPlan
  dsimp only
  rw [Step.bind_of_eq_ok _ (Step.handle_eq i e)]
  simp only [hf, hb, Bool.false_eq_true, if_false]
  rfl

/-- Releasing the savepoint that opened the transaction commits it, refused while deferred
foreign keys are violated. -/
theorem Engine.run_release_outer {sp : Savepoint} {k : Nat} (hp : p.plan = .release name)
    (hf : Step.findSavepoint (e.handle i) name = some (sp, k)) (hb : sp.begins = true) :
    Engine.run i p params e =
      if 0 < (e.handle i).deferredViolations then .error Fault.foreignKey e
      else (do Step.commitWork i; pure (⟨p.columns, [], none⟩ : Output)) e := by
  rw [Engine.run_of_schema params hv, hp]
  unfold Engine.runPlan
  dsimp only
  rw [Step.bind_of_eq_ok _ (Step.handle_eq i e)]
  simp only [hf, hb, if_true]
  by_cases hd : 0 < (e.handle i).deferredViolations
  · rw [if_pos hd, if_pos hd]
    rfl
  · rw [if_neg hd, if_neg hd]

theorem Engine.run_rollbackTo {sp : Savepoint} {k : Nat} (hp : p.plan = .rollbackTo name)
    (hf : Step.findSavepoint (e.handle i) name = some (sp, k)) :
    Engine.run i p params e = .ok ⟨p.columns, [], none⟩ (e.updateHandle i fun h =>
      { h with work := sp.snapshot.or ((e.handle i).work.map fun _ =>
                 e.stores.getD (e.handle i).database Store.empty),
               savepoints := h.savepoints.drop k, deferredViolations := sp.deferred }) := by
  rw [Engine.run_of_schema params hv, hp]
  unfold Engine.runPlan
  dsimp only
  rw [Step.bind_of_eq_ok _ (Step.handle_eq i e)]
  simp only [hf]
  cases sp.snapshot <;> rfl

end Run

end RecordMap.Sql
