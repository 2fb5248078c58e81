import RecordMap.Query.Host
import RecordMap.Text.Quoted
import RecordMap.Text.Case

/-!
# Writing values in for placeholders

Compiled SQL marks each value it binds by a `?`, and a `?` inside a double-quoted name is part
of the name. `fillIn` scans a text left to right, tracking whether it is inside a quoted name,
and writes the next value in for each `?` outside; `holeCount` counts those `?`.

`Fills write sql vs text` says that `sql` binds exactly the values `vs`: it has one `?` outside
quoted names for each value, ends outside quotes, and reads as `text` once the values are
written in. It composes along concatenation, so the texts a compiler builds from fixed pieces
and compiled parts are handled one piece at a time: a piece with no quote and no `?` (`Inert`)
binds nothing, a quoted name binds nothing, and a lone `?` binds one value.
-/

namespace RecordMap

open RecordMap.Text

/-! ## The scan -/

/-- Replaces each `?` outside double-quoted names by the next value as `write` spells it, left
to right; `quoted` holds while the scan is inside a double-quoted name. -/
def fillIn (write : Host → String) : Bool → List Char → List Host → List Char
  | _, [], _ => []
  | quoted, c :: cs, vs =>
    if c = '"' then c :: fillIn write (!quoted) cs vs
    else if c = '?' ∧ quoted = false then
      match vs with
      | v :: vs => (write v).toList ++ fillIn write quoted cs vs
      | [] => c :: fillIn write quoted cs []
    else c :: fillIn write quoted cs vs

/-- The number of `?` outside double-quoted names. -/
def holeCount : Bool → List Char → Nat
  | _, [] => 0
  | quoted, c :: cs =>
    if c = '"' then holeCount (!quoted) cs
    else if c = '?' ∧ quoted = false then holeCount quoted cs + 1
    else holeCount quoted cs

/-- Whether a scan ends inside a double-quoted name. -/
def quotedAfter : Bool → List Char → Bool
  | quoted, [] => quoted
  | quoted, c :: cs => if c = '"' then quotedAfter (!quoted) cs else quotedAfter quoted cs

section Scan

variable (write : Host → String)

theorem fillIn_append (q : Bool) (a b : List Char) (vs us : List Host)
    (h : holeCount q a = vs.length) :
    fillIn write q (a ++ b) (vs ++ us) =
      fillIn write q a vs ++ fillIn write (quotedAfter q a) b us := by
  induction a generalizing q vs with
  | nil =>
    cases vs with
    | nil => simp [fillIn, quotedAfter]
    | cons v vs => simp [holeCount] at h
  | cons c cs ih =>
    by_cases hc : c = '"'
    · subst hc
      simp only [holeCount, if_pos] at h
      simp [fillIn, quotedAfter, ih _ _ h]
    · by_cases hq : c = '?' ∧ q = false
      · obtain ⟨rfl, rfl⟩ := hq
        cases vs with
        | nil => simp [holeCount] at h
        | cons v vs =>
          simp only [holeCount] at h
          simp [fillIn, quotedAfter, ih _ vs (by simpa using h)]
      · simp only [holeCount, if_neg hc, if_neg hq] at h
        simp [fillIn, quotedAfter, hc, hq, ih _ _ h]

theorem holeCount_append (q : Bool) (a b : List Char) :
    holeCount q (a ++ b) = holeCount q a + holeCount (quotedAfter q a) b := by
  induction a generalizing q with
  | nil => simp [holeCount, quotedAfter]
  | cons c cs ih =>
    by_cases hc : c = '"'
    · simp [holeCount, quotedAfter, hc, ih]
    · by_cases hq : c = '?' ∧ q = false
      · simp only [List.cons_append, holeCount, quotedAfter, if_neg hc, if_pos hq, ih]
        omega
      · simp [holeCount, quotedAfter, hc, hq, ih]

theorem quotedAfter_append (q : Bool) (a b : List Char) :
    quotedAfter q (a ++ b) = quotedAfter (quotedAfter q a) b := by
  induction a generalizing q with
  | nil => rfl
  | cons c cs ih => by_cases hc : c = '"' <;> simp [quotedAfter, hc, ih]

end Scan

/-! ## Inert text -/

/-- Text with no double quote and no `?`: it neither opens a quoted name nor holds a
placeholder. -/
def Inert (s : String) : Prop := ∀ x ∈ s.toList, x ≠ '"' ∧ x ≠ '?'

-- The check runs along the text's characters; an instance that ranges over every character
-- would also apply, so the list one is named.
instance : DecidablePred Inert := fun s => List.decidableBAll (fun x => x ≠ '"' ∧ x ≠ '?') s.toList

theorem inert_append {a b : String} (ha : Inert a) (hb : Inert b) : Inert (a ++ b) := by
  intro x hx
  rw [String.toList_append, List.mem_append] at hx
  exact hx.elim (ha x) (hb x)

theorem inert_toString (n : Nat) : Inert (toString n) := by
  intro x hx
  rw [Nat.toString_eq_repr, Nat.toList_repr] at hx
  have hd := Nat.isDigit_of_mem_toDigits (by decide) (by decide) hx
  constructor <;> rintro rfl <;> simp at hd

/-- Compiled text `sql` binds exactly the values `vs`: it ends outside quotes, has one `?`
outside quoted names for each value, and reads as `text` once each is written in its place. -/
structure Fills (write : Host → String) (sql : List Char) (vs : List Host) (text : List Char) :
    Prop where
  closed : quotedAfter false sql = false
  count : holeCount false sql = vs.length
  fill : fillIn write false sql vs = text

namespace Fills

variable {write : Host → String}

theorem append {a b t u : List Char} {vs us : List Host} (ha : Fills write a vs t)
    (hb : Fills write b us u) : Fills write (a ++ b) (vs ++ us) (t ++ u) where
  closed := by rw [quotedAfter_append, ha.closed, hb.closed]
  count := by rw [holeCount_append, ha.closed, ha.count, hb.count, List.length_append]
  fill := by rw [fillIn_append write false a b vs us ha.count, ha.closed, ha.fill, hb.fill]

theorem plain {s : List Char} (hs : ∀ x ∈ s, x ≠ '"' ∧ x ≠ '?') : Fills write s [] s := by
  induction s with
  | nil => exact ⟨rfl, rfl, rfl⟩
  | cons c cs ih =>
    obtain ⟨hq, hm⟩ := hs c (List.mem_cons_self ..)
    obtain ⟨h1, h2, h3⟩ := ih fun x hx => hs x (List.mem_cons_of_mem _ hx)
    exact ⟨by simp [quotedAfter, hq, h1], by simp [holeCount, hq, hm, h2],
      by simp [fillIn, hq, hm, h3]⟩

theorem hole (v : Host) : Fills write "?".toList [v] (write v).toList :=
  ⟨by decide, by simp [holeCount], by simp [fillIn]⟩

/-- Inside a quoted name a doubled quote keeps the scan inside, so nothing in it is a hole. -/
theorem fillIn_escaped (cs rest : List Char) (vs : List Host) :
    fillIn write true (cs.flatMap (fun c => if c = '"' then ['"', '"'] else [c]) ++ rest) vs =
        cs.flatMap (fun c => if c = '"' then ['"', '"'] else [c]) ++ fillIn write true rest vs ∧
      quotedAfter true (cs.flatMap fun c => if c = '"' then ['"', '"'] else [c]) = true ∧
      holeCount true (cs.flatMap fun c => if c = '"' then ['"', '"'] else [c]) = 0 := by
  induction cs with
  | nil => exact ⟨rfl, rfl, rfl⟩
  | cons c cs ih =>
    obtain ⟨h1, h2, h3⟩ := ih
    by_cases hc : c = '"'
    · subst hc
      simp [fillIn, quotedAfter, holeCount, h1, h2, h3]
    · simp [fillIn, quotedAfter, holeCount, hc, h1, h2, h3]

theorem quoted (name : String) :
    Fills write (quoteIdentifier name).toList [] (quoteIdentifier name).toList := by
  obtain ⟨h1, h2, h3⟩ := @fillIn_escaped write name.toList ['"'] []
  refine ⟨?_, ?_, ?_⟩
  · simp [quoteIdentifier, quotedAfter, quotedAfter_append, h2]
  · simp [quoteIdentifier, holeCount, holeCount_append, h3]
  · simp [quoteIdentifier, fillIn, h1]

theorem sepCons {sep x t : String} {xs ts : List String} {vs us : List Host} (hsep : Inert sep)
    (hx : Fills write x.toList vs t.toList)
    (hxs : Fills write (sep.intercalate xs).toList us (sep.intercalate ts).toList)
    (hlen : xs.length = ts.length) :
    Fills write (sep.intercalate (x :: xs)).toList (vs ++ us) (sep.intercalate (t :: ts)).toList := by
  match xs, ts, hlen with
  | [], [], _ =>
    have hus : us = [] := List.eq_nil_of_length_eq_zero (by simpa [holeCount] using hxs.count.symm)
    subst hus
    simpa using hx
  | y :: ys, z :: zs, _ =>
    simpa [String.intercalate_cons_cons] using hx.append ((plain hsep).append hxs)

theorem intercalate {sep : String} {xs : List String} (hsep : Inert sep)
    (hxs : ∀ x ∈ xs, Fills write x.toList [] x.toList) :
    Fills write (sep.intercalate xs).toList [] (sep.intercalate xs).toList := by
  induction xs with
  | nil => exact ⟨rfl, rfl, rfl⟩
  | cons x rest ih =>
    have := sepCons hsep (hxs x (List.mem_cons_self ..))
      (ih fun y hy => hxs y (List.mem_cons_of_mem _ hy)) rfl
    simpa using this

theorem items (items : List Value) :
    Fills write (",".intercalate (items.map fun _ => "?")).toList (items.map Host.scalar)
      (",".intercalate (items.map fun v => write (.scalar v))).toList := by
  induction items with
  | nil => exact ⟨rfl, rfl, rfl⟩
  | cons v vs ih =>
    have := sepCons (by decide) (@hole write (.scalar v)) ih (by simp)
    simpa using this

theorem inert {s : String} (h : Inert s) : Fills write s.toList [] s.toList :=
  plain h

theorem around1 {pre post a t : String} {vs : List Host} (hpre : Inert pre) (hpost : Inert post)
    (ha : Fills write a.toList vs t.toList) :
    Fills write (pre ++ a ++ post).toList vs (pre ++ t ++ post).toList := by
  simpa using ((plain hpre).append ha).append (plain hpost)

theorem around2 {pre mid post a b t u : String} {vs us : List Host} (hpre : Inert pre)
    (hmid : Inert mid) (hpost : Inert post) (ha : Fills write a.toList vs t.toList)
    (hb : Fills write b.toList us u.toList) :
    Fills write (pre ++ a ++ mid ++ b ++ post).toList (vs ++ us)
      (pre ++ t ++ mid ++ u ++ post).toList := by
  simpa using ((((plain hpre).append ha).append (plain hmid)).append hb).append (plain hpost)

end Fills

/-! ## Plain names -/

/-- A plain identifier: ASCII letters, digits and underscores. -/
def isPlainName (s : String) : Bool := s.toList.all fun c => c.isAlphanum || c == '_'

theorem plainChar_lt {c : Char} (h : (c.isAlphanum || c == '_') = true) : c.toNat < 128 := by
  have hval : c.toNat = c.val.toNat := rfl
  simp only [Bool.or_eq_true, beq_iff_eq] at h
  rcases h with h | rfl
  · -- every letter and digit lies at or below `z`, whose code is 122
    delta Char.isAlphanum Char.isAlpha Char.isUpper Char.isLower Char.isDigit at h
    simp only [Bool.or_eq_true, Bool.and_eq_true, decide_eq_true_eq] at h
    rcases h with (⟨-, h⟩ | ⟨-, h⟩) | ⟨-, h⟩ <;> rw [UInt32.le_iff_toNat_le] at h <;>
      simp at h <;> omega
  · decide

theorem lowerRuns_cons : lowerRuns.toList = ⟨0x41, 0x5A, 32, 1⟩ :: lowerRuns.toList.tail := rfl

theorem lowerRuns_tail_lo : ∀ r ∈ lowerRuns.toList.tail, 0xC0 ≤ r.lo := by
  decide +kernel

/-- Below `0xC0` only the ASCII capitals have a small letter, 32 code points on. -/
theorem lowerCode?_of_lt {n : Nat} (h : n < 0xC0) :
    lowerCode? n = if 0x41 ≤ n ∧ n ≤ 0x5A then some (n + 32) else none := by
  have hnone : lowerRuns.toList.tail.find?
      (fun r => r.lo ≤ n && n ≤ r.hi && (n - r.lo) % r.stride == 0) = none := by
    rw [List.find?_eq_none]
    intro r hr
    have := lowerRuns_tail_lo r hr
    simp only [Bool.and_eq_true, decide_eq_true_eq, not_and]
    omega
  unfold lowerCode?
  rw [← Array.find?_toList, lowerRuns_cons, List.find?_cons]
  dsimp only
  by_cases hA : 0x41 ≤ n ∧ n ≤ 0x5A
  · have hp : (decide (0x41 ≤ n) && decide (n ≤ 0x5A) && (n - 0x41) % 1 == 0) = true := by
      simp only [Nat.mod_one, beq_self_eq_true, Bool.and_true, Bool.and_eq_true, decide_eq_true_eq]
      exact hA
    simp only [hp, if_pos hA, Option.map_some, Option.some.injEq]
    omega
  · have hp : (decide (0x41 ≤ n) && decide (n ≤ 0x5A) && (n - 0x41) % 1 == 0) = false := by
      simp only [Nat.mod_one, beq_self_eq_true, Bool.and_true, Bool.and_eq_false_iff,
        decide_eq_false_iff_not]
      omega
    simp only [hp, if_neg hA, hnone, Option.map_none]

/-- A letter, digit or underscore lowercases to characters that are neither a quote nor `?`. -/
theorem lowerChar_inert {c : Char} (h : (c.isAlphanum || c == '_') = true) :
    ∀ d ∈ lowerChar c, d ≠ '"' ∧ d ≠ '?' := by
  have hlt := plainChar_lt h
  have hc : c ≠ '"' ∧ c ≠ '?' := by
    constructor <;> rintro rfl <;> simp at h
  unfold lowerChar
  rw [if_neg (by simp only [beq_iff_eq]; omega), lowerCode?_of_lt (by omega)]
  by_cases hA : 0x41 ≤ c.toNat ∧ c.toNat ≤ 0x5A
  · -- a capital's small letter is 32 code points on, still a letter
    simp only [hA, and_self, if_true, List.mem_singleton]
    rintro d rfl
    have hsmall : ∀ k < 26, Char.ofNat (97 + k) ≠ '"' ∧ Char.ofNat (97 + k) ≠ '?' := by decide
    have := hsmall (c.toNat - 65) (by omega)
    rwa [show 97 + (c.toNat - 65) = c.toNat + 32 by omega] at this
  · simp only [hA, if_false, List.mem_singleton]
    rintro d rfl
    exact hc

/-- The lowercase of a plain identifier is inert text. -/
theorem inert_lowercase {s : String} (h : isPlainName s) : Inert (lowercase s) := by
  have hall : ∀ c ∈ s.toList, (c.isAlphanum || c == '_') = true := by
    simpa [isPlainName] using h
  suffices ∀ (before cs : List Char), (∀ c ∈ cs, (c.isAlphanum || c == '_') = true) →
      ∀ x ∈ lowerChars before cs, x ≠ '"' ∧ x ≠ '?' by
    intro x hx
    exact this [] s.toList hall x (by simpa [lowercase] using hx)
  intro before cs hcs
  -- induction on the characters; the sigma rule, the one that looks around, is for non-ASCII
  induction cs generalizing before with
  | nil => simp [lowerChars]
  | cons c rest ih =>
    have hc := hcs c (List.mem_cons_self ..)
    have hnot : (c.toNat == 0x3A3) = false := by
      have := plainChar_lt hc
      simp only [beq_eq_false_iff_ne]
      omega
    intro x hx
    simp only [lowerChars, hnot, Bool.false_eq_true, if_false, List.mem_append] at hx
    rcases hx with hx | hx
    · exact lowerChar_inert hc x hx
    · exact ih (c :: before) (fun d hd => hcs d (List.mem_cons_of_mem _ hd)) x hx

end RecordMap
