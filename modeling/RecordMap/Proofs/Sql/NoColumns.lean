import RecordMap.Sql.Engine
import RecordMap.Text.Quoted

/-!
# A table without columns

The engine refuses `create table if not exists "T"()`: the tokenizer reads the quoted name back
as one token (`scanQuoted_doubled`), and the parser, which wants a column definition after the
opening parenthesis, stops at the closing one with `near ")": syntax error`
(`parse_noColumns`, `Engine.prepare_noColumns`).

The parser is read step by step: a lemma per reader of single tokens, given the token at the
cursor (`Parser.current_eq` and the lemmas after it), then one lemma per production on the way.
-/

namespace RecordMap.Sql

open RecordMap.Text

/-! ## The tokens -/

/-- The characters of a name between double quotes: each quote doubled. -/
def doubledQuotes (s : List Char) : List Char :=
  s.flatMap fun c => if c = '"' then ['"', '"'] else [c]

theorem quoteIdentifier_toList (name : String) :
    (quoteIdentifier name).toList = '"' :: doubledQuotes name.toList ++ ['"'] := by
  simp [quoteIdentifier, doubledQuotes]

@[simp] theorem doubledQuotes_nil : doubledQuotes [] = [] := rfl

theorem doubledQuotes_cons (c : Char) (cs : List Char) :
    doubledQuotes (c :: cs) =
      (if c = '"' then ['"', '"'] else [c]) ++ doubledQuotes cs := by
  simp [doubledQuotes]

/-- The scanner takes the doubled form of a name and its closing quote, and gives the name
back, whatever follows unless it is one more quote. -/
theorem scanQuoted_doubledQuotes (cs : List Char) {rest : List Char}
    (hrest : rest.head? ≠ some '"') :
    scanQuoted '"' (doubledQuotes cs ++ '"' :: rest) = (cs, (doubledQuotes cs).length + 1, true) := by
  induction cs with
  | nil =>
    -- the closing quote: what follows it is not a quote, so it ends the token
    cases rest with
    | nil => rfl
    | cons d more =>
      have hd : (d == '"') = false := by simpa using hrest
      simp [scanQuoted, hd]
  | cons c cs ih =>
    by_cases hc : c = '"'
    · subst hc
      simp [doubledQuotes_cons, scanQuoted, ih]
    · -- a character other than the quote is taken as it stands
      have hq : (c == '"') = false := by simpa using hc
      rw [doubledQuotes_cons, if_neg hc, List.singleton_append, List.cons_append,
        scanQuoted.eq_def]
      simp only [hq, Bool.false_eq_true, if_false, ih]
      simp

theorem scanQuoted_doubled (s : List Char) {d : Char} (hd : d ≠ '"') (rest : List Char) :
    scanQuoted '"' (doubledQuotes s ++ '"' :: d :: rest) = (s, (doubledQuotes s).length + 1, true) :=
  scanQuoted_doubledQuotes s (by simpa using hd)

theorem take_cons_beq_of_ne {c d : Char} (h : c ≠ d) (n : Nat) (rest ds : List Char) :
    ((c :: rest).take n == d :: ds) = false := by
  cases n with
  | zero => rfl
  | succ n => simp [h]

theorem longSymbols_find?_none {c : Char} (hc : c ∉ ['-', '|', '<', '>', '!', '='])
    (rest : List Char) :
    longSymbols.find? (fun s => (c :: rest).take s.length == s.toList) = none := by
  simp only [List.mem_cons, List.not_mem_nil, or_false, not_or] at hc
  obtain ⟨h1, h2, h3, h4, h5, h6⟩ := hc
  simp [longSymbols, take_cons_beq_of_ne, h1, h2, h3, h4, h5, h6]

/-- The first tokens of a table creation whose column list is empty. -/
theorem tokenize_noColumns {text name : String} {rest : List Char}
    (htext : text.toList = "create table if not exists ".toList ++ (quoteIdentifier name).toList ++
      '(' :: ')' :: rest) :
    ((tokenize text).take 8).map (·.kind) = [.word "create", .word "table", .word "if",
      .word "not", .word "exists", .quoted name true, .symbol "(", .symbol ")"] := by
  -- thirteen scanning steps reach the closing parenthesis, five of them over blanks
  have hlen : text.length + 1 = (text.length - 13) + 14 := by
    have hprefix : ("create table if not exists ".toList).length = 27 := by decide
    have h := congrArg List.length htext
    rw [String.length_toList, List.length_append, List.length_append, hprefix] at h
    omega
  unfold tokenize
  rw [hlen, htext, quoteIdentifier_toList]
  simp +decide [tokenize.go, scanOne, isWordChar, isGap, scanQuoted_doubled,
    longSymbols_find?_none, shortSymbols]

/-! ## Reading tokens -/

def ParseState.next (st : ParseState) : ParseState := { st with pos := st.pos + 1 }

namespace Parser
variable {α β : Type} {src : Lexed} {st : ParseState}

theorem bind_of_ok {p : Parser α} (f : α → Parser β) {a : α} {st' : ParseState}
    (h : p src st = .ok (a, st')) : (p >>= f) src st = f a src st' := by
  change (p src st >>= fun (x : α × ParseState) => f x.1 src x.2) = _
  rw [h]
  rfl

theorem bind_of_error {p : Parser α} (f : α → Parser β) {e : Fault}
    (h : p src st = .error e) : (p >>= f) src st = .error e := by
  change (p src st >>= fun (x : α × ParseState) => f x.1 src x.2) = _
  rw [h]
  rfl

theorem advance_eq : advance src st = .ok ((), st.next) := rfl

section Reading

variable {t : Token} (ht : src.tokens.getD st.pos (lastToken src) = t)
  (hl : (t.kind == .illegal) = false)
include ht hl

theorem current_eq : current src st = .ok (t, st) := by
  unfold current
  change (if (src.tokens.getD st.pos (lastToken src)).kind == .illegal then throw _ else pure _ : Parser Token) src st = _
  rw [ht, hl]
  rfl

theorem failHere_eq : (failHere : Parser α) src st = .error (Fault.syntaxAt t) := by
  unfold failHere
  rw [bind_of_ok _ (current_eq ht hl)]
  rfl

theorem acceptWord_eq (w : String) :
    acceptWord w src st = if t.isWord w then .ok (true, st.next) else .ok (false, st) := by
  unfold acceptWord
  rw [bind_of_ok _ (current_eq ht hl)]
  split <;> rfl

theorem acceptSymbol_eq (s : String) :
    acceptSymbol s src st = if t.isSymbol s then .ok (true, st.next) else .ok (false, st) := by
  unfold acceptSymbol
  rw [bind_of_ok _ (current_eq ht hl)]
  split <;> rfl

theorem takeWith_eq (f : Token → Option String) :
    takeWith f src st = match f t with
      | some n => .ok ((n, t), st.next)
      | none => .error (Fault.syntaxAt t) := by
  unfold takeWith
  rw [bind_of_ok _ (current_eq ht hl)]
  cases f t with
  | some n => rfl
  | none => exact failHere_eq ht hl

theorem expectSymbol_eq (s : String) :
    expectSymbol s src st = if t.isSymbol s then .ok (t, st.next) else .error (Fault.syntaxAt t) := by
  unfold expectSymbol
  rw [bind_of_ok _ (current_eq ht hl)]
  split
  · rfl
  · exact failHere_eq ht hl

theorem expectWord_of_isWord {w : String} (hw : t.isWord w = true) :
    expectWord w src st = .ok ((), st.next) := by
  have hacc : acceptWord w src st = .ok (true, st.next) := by
    rw [acceptWord_eq ht hl w, if_pos hw]
  unfold expectWord
  rw [bind_of_ok _ hacc]
  rfl

end Reading

theorem isWord_of_upper? {t : Token} {u : String} (h : t.upper? = some u) (w : String) :
    t.isWord w = (u == w) := by
  simp [Token.isWord, h]

theorem statement_create_table {fuel : Nat} {t0 t1 : Token}
    (h0 : src.tokens.getD st.pos (lastToken src) = t0) (k0 : t0.kind = .word "create")
    (h1 : src.tokens.getD (st.pos + 1) (lastToken src) = t1) (k1 : t1.kind = .word "table") :
    statement fuel src st = createTable fuel false src st.next.next := by
  have hu0 : t0.upper? = some "CREATE" := by
    simp only [Token.upper?, k0]
    decide +kernel
  have hu1 : t1.upper? = some "TABLE" := by
    simp only [Token.upper?, k1]
    decide +kernel
  have hacc : ∀ w, acceptWord w src st.next =
      if "TABLE" == w then .ok (true, st.next.next) else .ok (false, st.next) := by
    intro w
    rw [acceptWord_eq h1 (by rw [k1]; rfl), isWord_of_upper? hu1]
  have htemp : acceptWord "TEMP" src st.next = .ok (false, st.next) := by
    rw [hacc, if_neg (by decide)]
  have htemporary : acceptWord "TEMPORARY" src st.next = .ok (false, st.next) := by
    rw [hacc, if_neg (by decide)]
  have htable : acceptWord "TABLE" src st.next = .ok (true, st.next.next) := by
    rw [hacc, if_pos (by decide)]
  unfold statement
  rw [bind_of_ok _ (current_eq h0 (by rw [k0]; rfl))]
  simp only [hu0]
  rw [bind_of_ok _ advance_eq, bind_of_ok _ htemp]
  simp only [Bool.false_eq_true, if_false]
  rw [bind_of_ok _ htemporary, bind_of_ok _ htable]
  rfl

theorem ahead_eq (k : Nat) : ahead k src st = .ok (src.tokens.getD (st.pos + k) (lastToken src), st) :=
  rfl

theorem nm?_symbol {t : Token} {s : String} (h : t.kind = .symbol s) : t.nm? = none := by
  simp [Token.nm?, Token.idj?, Token.id?, Token.plainName?, Token.isWord, Token.upper?, h]

theorem ifNotExists_eq {t2 t3 t4 : Token}
    (h2 : src.tokens.getD st.pos (lastToken src) = t2) (k2 : t2.kind = .word "if")
    (h3 : src.tokens.getD (st.pos + 1) (lastToken src) = t3) (k3 : t3.kind = .word "not")
    (h4 : src.tokens.getD (st.pos + 2) (lastToken src) = t4) (k4 : t4.kind = .word "exists") :
    ifNotExists src st = .ok (true, st.next.next.next) := by
  have hu2 : t2.upper? = some "IF" := by
    simp only [Token.upper?, k2]
    decide +kernel
  have hu3 : t3.upper? = some "NOT" := by
    simp only [Token.upper?, k3]
    decide +kernel
  have hu4 : t4.upper? = some "EXISTS" := by
    simp only [Token.upper?, k4]
    decide +kernel
  have hexists : expectWord "EXISTS" src st.next.next = .ok ((), st.next.next.next) :=
    expectWord_of_isWord h4 (by rw [k4]; rfl) (by rw [isWord_of_upper? hu4]; decide)
  unfold ifNotExists
  rw [bind_of_ok _ (current_eq h2 (by rw [k2]; rfl)), bind_of_ok _ (ahead_eq 1), h3,
    isWord_of_upper? hu2, isWord_of_upper? hu3]
  simp only [show ("IF" == "IF" && "NOT" == "NOT") = true by decide, if_true]
  rw [bind_of_ok _ advance_eq, bind_of_ok _ advance_eq, bind_of_ok _ hexists]
  rfl

theorem qualifiedName_eq {t u : Token} {n s : String}
    (ht : src.tokens.getD st.pos (lastToken src) = t) (hl : (t.kind == .illegal) = false)
    (hn : t.nm? = some n) (hu : src.tokens.getD (st.pos + 1) (lastToken src) = u)
    (ku : u.kind = .symbol s) (hs : s ≠ ".") :
    qualifiedName src st = .ok ((none, n, t), st.next) := by
  have hnm : nm src st = .ok ((n, t), st.next) := by
    unfold nm
    rw [takeWith_eq ht hl, hn]
  have hdot : u.isSymbol "." = false := by
    rw [Token.isSymbol, ku]
    change (s == ".") = false
    simpa using hs
  unfold qualifiedName
  rw [bind_of_ok _ hnm]
  dsimp only
  rw [bind_of_ok _ (current_eq hu (by rw [ku]; rfl)), hdot]
  rfl

theorem columnDefs_error {fuel n : Nat} {t : Token} {s : String}
    (ht : src.tokens.getD st.pos (lastToken src) = t) (k : t.kind = .symbol s) :
    columnDefs fuel (n + 1) src st = .error (Fault.syntaxAt t) := by
  have hnm : nm src st = .error (Fault.syntaxAt t) := by
    unfold nm
    rw [takeWith_eq ht (by rw [k]; rfl), nm?_symbol k]
  have hdef : columnDef fuel src st = .error (Fault.syntaxAt t) := by
    unfold columnDef
    rw [bind_of_error _ hnm]
  unfold columnDefs
  rw [bind_of_error _ hdef]

/-- A table creation whose parenthesis closes right after it opens is refused at the closing
parenthesis. -/
theorem createTable_noColumns {fuel : Nat} (hf : 0 < fuel) (temporary : Bool) {name : String}
    {t2 t3 t4 t5 t6 t7 : Token}
    (h2 : src.tokens.getD st.pos (lastToken src) = t2) (k2 : t2.kind = .word "if")
    (h3 : src.tokens.getD (st.pos + 1) (lastToken src) = t3) (k3 : t3.kind = .word "not")
    (h4 : src.tokens.getD (st.pos + 2) (lastToken src) = t4) (k4 : t4.kind = .word "exists")
    (h5 : src.tokens.getD (st.pos + 3) (lastToken src) = t5) (k5 : t5.kind = .quoted name true)
    (h6 : src.tokens.getD (st.pos + 4) (lastToken src) = t6) (k6 : t6.kind = .symbol "(")
    (h7 : src.tokens.getD (st.pos + 5) (lastToken src) = t7) (k7 : t7.kind = .symbol ")") :
    createTable fuel temporary src st = .error (Fault.syntaxAt t7) := by
  obtain ⟨f, rfl⟩ : ∃ f, fuel = f + 1 := ⟨fuel - 1, by omega⟩
  have hname : qualifiedName src st.next.next.next = .ok ((none, name, t5), st.next.next.next.next) :=
    qualifiedName_eq h5 (by rw [k5]; rfl) (by simp [Token.nm?, Token.idj?, Token.id?,
      Token.plainName?, k5]) h6 k6 (by decide)
  have has : acceptWord "AS" src st.next.next.next.next = .ok (false, st.next.next.next.next) := by
    rw [acceptWord_eq h6 (by rw [k6]; rfl), if_neg (by simp [Token.isWord, Token.upper?, k6])]
  have hopen : expectSymbol "(" src st.next.next.next.next = .ok (t6, st.next.next.next.next.next) := by
    rw [expectSymbol_eq h6 (by rw [k6]; rfl), if_pos (by rw [Token.isSymbol, k6]; rfl)]
  unfold createTable
  rw [bind_of_ok _ (ifNotExists_eq h2 k2 h3 k3 h4 k4), bind_of_ok _ hname]
  dsimp only
  rw [bind_of_ok _ has]
  simp only [Bool.false_eq_true, if_false]
  rw [bind_of_ok _ hopen, bind_of_error _ (columnDefs_error h7 k7)]

theorem skipSemicolons_eq {t : Token} (ht : src.tokens.getD st.pos (lastToken src) = t)
    (hl : (t.kind == .illegal) = false) (hs : t.isSymbol ";" = false) :
    ∀ n, skipSemicolons n src st = .ok ((), st)
  | 0 => rfl
  | n + 1 => by
    unfold skipSemicolons
    rw [bind_of_ok _ (by rw [acceptSymbol_eq ht hl, hs]; rfl)]
    rfl

end Parser

open RecordMap.Sql.Parser

theorem kind_getD_of_take {l : List Token} {n : Nat} {ks : List TokenKind}
    (h : (l.take n).map (·.kind) = ks) {i : Nat} (hi : i < ks.length) (d : Token) :
    (l.toArray.getD i d).kind = ks[i] := by
  subst h
  simp only [List.length_map, List.length_take] at hi
  simp [Array.getD, List.getElem_take, Nat.lt_min.1 hi]

theorem parse_noColumns {text name : String}
    (htoks : ((tokenize text).take 8).map (·.kind) = [.word "create", .word "table", .word "if",
      .word "not", .word "exists", .quoted name true, .symbol "(", .symbol ")"]) :
    ∃ t : Token, t.kind = .symbol ")" ∧ parse text = .error (Fault.syntaxAt t) := by
  let src : Lexed := ⟨(tokenize text).toArray, text.toList.toArray⟩
  have k := fun i hi => kind_getD_of_take htoks (i := i) hi (lastToken src)
  have hfuel : 0 < 16 * src.tokens.size + 64 := by omega
  have hstatement : statement (16 * src.tokens.size + 64) src ⟨0, #[]⟩ =
      .error (Fault.syntaxAt (src.tokens.getD 7 (lastToken src))) := by
    rw [statement_create_table rfl (k 0 (by simp)) rfl (k 1 (by simp))]
    exact createTable_noColumns hfuel false rfl (k 2 (by simp)) rfl (k 3 (by simp)) rfl
      (k 4 (by simp)) rfl (k 5 (by simp)) rfl (k 6 (by simp)) rfl (k 7 (by simp))
  have h0 : (src.tokens.getD 0 (lastToken src)).kind = .word "create" := k 0 (by simp)
  have hskip : skipSemicolons src.tokens.size src ⟨0, #[]⟩ = .ok ((), ⟨0, #[]⟩) :=
    skipSemicolons_eq rfl (by rw [h0]; rfl) (by rw [Token.isSymbol, h0]; rfl) _
  refine ⟨src.tokens.getD 7 (lastToken src), k 7 (by simp), ?_⟩
  unfold parse
  dsimp only [ReaderT.run, StateT.run]
  have hfinish : ((src.tokens.getD 0 (lastToken src)).kind == .finish) = false := by
    rw [h0]
    rfl
  rw [bind_of_ok _ hskip, bind_of_ok _ (current_eq rfl (by rw [h0]; rfl))]
  dsimp only
  simp only [hfinish, Bool.false_eq_true, if_false]
  rw [bind_of_error _ hstatement]


theorem Engine.prepare_noColumns (e : Engine) (i : Nat) {text name : String} {rest : List Char}
    (htext : text.toList = "create table if not exists ".toList ++ (quoteIdentifier name).toList ++
      '(' :: ')' :: rest) :
    ∃ t : Token, t.kind = .symbol ")" ∧ e.prepare i text = .error (Fault.syntaxAt t) := by
  obtain ⟨t, hk, hparse⟩ := parse_noColumns (tokenize_noColumns htext)
  refine ⟨t, hk, ?_⟩
  unfold Engine.prepare
  rw [hparse]
  rfl

end RecordMap.Sql
