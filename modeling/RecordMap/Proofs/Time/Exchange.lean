import RecordMap.Proofs.Time.Fields
import RecordMap.Time.Parse

/-!
# Reading back the exchange text

The exchange text of a timestamp that a calendar holds reads back as the timestamp
(`parseStored_exchangeText`). Each field of the text is a run of digits, zeros in front, ended
by a character that is not a digit; a run of digits reads as the number it writes
(`digitsValue_padded`), and each scanner of the parser takes exactly the run in front of it
(`scanDigits_append`, `scanYear_yearText`, `scanFraction_padded`). The text has no white
space, so trimming it and skipping blanks before a field change nothing.
-/

namespace RecordMap.Time

open RecordMap.Text

/-! ## Digits -/

theorem digitsValue_eq_ofDigitChars (ds : List Char) :
    digitsValue ds = Nat.ofDigitChars 10 ds 0 := rfl

theorem padded_toList (w n : Nat) :
    (padded w n).toList =
      List.replicate (w - (Nat.toDigits 10 n).length) '0' ++ Nat.toDigits 10 n := by
  simp only [padded, Nat.toString_eq_repr, String.toList_append, String.toList_ofList,
    Nat.toList_repr, ← String.length_toList]

theorem isDigit_of_mem_padded {w n : Nat} {c : Char} (h : c ∈ (padded w n).toList) :
    c.isDigit = true := by
  rw [padded_toList, List.mem_append, List.mem_replicate] at h
  rcases h with ⟨-, rfl⟩ | h
  · rfl
  · exact Nat.isDigit_of_mem_toDigits (by decide) (by decide) h

theorem digitsValue_padded (w n : Nat) : digitsValue (padded w n).toList = n := by
  rw [digitsValue_eq_ofDigitChars, padded_toList, Nat.ofDigitChars_append,
    Nat.ofDigitChars_replicate_zero, Nat.mul_zero, Nat.ofDigitChars_ten_toDigits]

theorem padded_ne_nil (w n : Nat) : (padded w n).toList ≠ [] := by
  simp [padded_toList]

theorem length_padded {w n : Nat} (hw : 0 < w) (hn : n < 10 ^ w) :
    (padded w n).toList.length = w := by
  have h := (Nat.length_toDigits_le_iff (by decide) hw).2 hn
  rw [padded_toList, List.length_append, List.length_replicate]
  omega

/-! ## White space -/

theorem isBlank_of_isDigit {c : Char} (h : c.isDigit = true) : isBlank c = false := by
  have h := Char.isDigit_iff_toNat.1 h
  simp only [Char.reduceToNat] at h
  simp only [isBlank, Bool.or_eq_false_iff, Bool.and_eq_false_iff, decide_eq_false_iff_not,
    beq_eq_false_iff_ne, ne_eq]
  omega

theorem dropBlank_cons {c : Char} (cs : List Char) (h : isBlank c = false) :
    dropBlank (c :: cs) = c :: cs := by
  simp only [dropBlank, List.dropWhile_cons, h, Bool.false_eq_true, if_false]

theorem dropBlank_digits_append {ds rest : List Char} (hds : ∀ c ∈ ds, c.isDigit = true)
    (hne : ds ≠ []) : dropBlank (ds ++ rest) = ds ++ rest := by
  obtain ⟨c, cs, rfl⟩ := List.exists_cons_of_ne_nil hne
  exact dropBlank_cons _ (isBlank_of_isDigit (hds c (List.mem_cons_self ..)))

theorem trimBlank_of_forall {s : String} (h : ∀ c ∈ s.toList, isBlank c = false) :
    trimBlank s = s := by
  have hkeep : ∀ l : List Char, (∀ c ∈ l, isBlank c = false) → dropBlank l = l := by
    rintro (_ | ⟨c, l⟩) hl
    · rfl
    · exact dropBlank_cons l (hl c (List.mem_cons_self ..))
  unfold trimBlank
  rw [hkeep _ h, hkeep _ (by simpa using h), List.reverse_reverse, String.ofList_toList]

/-! ## Scanning fields -/

section Scan

variable {ds rest : List Char}

theorem takeWhile_isDigit_append (hds : ∀ c ∈ ds, c.isDigit = true)
    (hrest : ∀ c ∈ rest.head?, c.isDigit = false) :
    (ds ++ rest).takeWhile Char.isDigit = ds := by
  rw [List.takeWhile_append_of_pos hds]
  cases rest with
  | nil => simp
  | cons c rest => simp [hrest c rfl]

theorem scanDigits_append {w : Nat} (hds : ∀ c ∈ ds, c.isDigit = true) (hne : ds ≠ [])
    (hw : ds.length ≤ w) (hrest : ∀ c ∈ rest.head?, c.isDigit = false) :
    scanDigits w (ds ++ rest) = some (digitsValue ds, rest) := by
  unfold scanDigits
  rw [takeWhile_isDigit_append hds hrest, List.take_of_length_le hw]
  simp [hne]

theorem scanDigits_padded {w n : Nat} (hw : 0 < w) (hn : n < 10 ^ w)
    (hrest : ∀ c ∈ rest.head?, c.isDigit = false) :
    scanDigits w (dropBlank ((padded w n).toList ++ rest)) = some (n, rest) := by
  rw [dropBlank_digits_append (fun _ => isDigit_of_mem_padded) (padded_ne_nil w n),
    scanDigits_append (fun _ => isDigit_of_mem_padded) (padded_ne_nil w n)
      (length_padded hw hn).le hrest, digitsValue_padded]

theorem scanYear_signed {n : Nat} {sign : Char} (hsign : sign = '-' ∨ sign = '+') :
    scanYear (sign :: ((padded 4 n).toList ++ rest)) =
      (scanDigits ((padded 4 n).toList ++ rest).length ((padded 4 n).toList ++ rest)).map
        fun (m, r) => (if sign = '-' then -(m : Int) else (m : Int), r) := by
  rcases hsign with rfl | rfl <;> rfl

/-- The year as a calendar writes it: four digits, or a sign and at least four. -/
theorem scanYear_yearText (y : Int) (hrest : ∀ c ∈ rest.head?, c.isDigit = false) :
    scanYear (dropBlank ((yearText y).toList ++ rest)) = some (y, rest) := by
  have hdig : ∀ n, ∀ c ∈ (padded 4 n).toList, c.isDigit = true :=
    fun _ _ => isDigit_of_mem_padded
  unfold yearText
  split
  · -- four digits, read by the unsigned rule
    rename_i hy
    have hlen := length_padded (w := 4) (n := y.toNat) (by decide) (by omega)
    rw [dropBlank_digits_append (hdig _) (padded_ne_nil _ _)]
    obtain ⟨c, cs, hcs⟩ := List.exists_cons_of_ne_nil (padded_ne_nil 4 y.toNat)
    have hc : c.isDigit = true := hdig _ c (hcs ▸ List.mem_cons_self ..)
    have hscan := scanDigits_append (w := 4) (hdig y.toNat) (padded_ne_nil _ _) hlen.le hrest
    rw [hcs, List.cons_append] at hscan ⊢
    unfold scanYear
    split
    · exact absurd hc (by simp_all)
    · exact absurd hc (by simp_all)
    · rw [hscan, ← hcs, digitsValue_padded]
      simp only [Option.map_some, Int.toNat_of_nonneg hy.1]
  · -- a sign, then every digit up to the separator
    have hscan := scanDigits_append (w := ((padded 4 y.natAbs).toList ++ rest).length)
      (hdig y.natAbs) (padded_ne_nil _ _) (by simp) hrest
    split <;> simp only [String.toList_append, String.reduceToList, List.cons_append,
      List.nil_append] <;> rw [dropBlank_cons _ (by decide)]
    · have hy : -((y.natAbs : Nat) : Int) = y := by omega
      rw [scanYear_signed (.inl rfl), hscan, digitsValue_padded]
      simp only [Option.map_some, ↓reduceIte, hy]
    · have hy : ((y.natAbs : Nat) : Int) = y := by omega
      rw [scanYear_signed (.inr rfl), hscan, digitsValue_padded]
      simp only [Option.map_some, hy]
      rw [if_neg (by decide)]

theorem scanFraction_padded {n : Nat} (hn : n < 10 ^ 9) :
    scanFraction (padded 9 n).toList = some (n, []) := by
  have hlen := length_padded (by decide) hn
  have htake : (padded 9 n).toList.takeWhile Char.isDigit = (padded 9 n).toList := by
    simpa using takeWhile_isDigit_append (fun _ => isDigit_of_mem_padded)
      (by simp : ∀ c ∈ ([] : List Char).head?, c.isDigit = false)
  have htake9 : (padded 9 n).toList.take 9 = (padded 9 n).toList := List.take_of_length_le hlen.le
  unfold scanFraction
  simp only [htake, List.isEmpty_iff, padded_ne_nil, if_false, hlen, htake9, digitsValue_padded,
    List.drop_eq_nil_of_le hlen.le, Nat.sub_self, Nat.pow_eq, Nat.pow_zero, Nat.mul_one]

theorem scanDigits_padded_sep {w n : Nat} (hw : 0 < w) (hn : n < 10 ^ w) (sep : Char)
    (hsep : sep.isDigit = false) (rest : List Char) :
    scanDigits w (dropBlank ((padded w n).toList ++ sep :: rest)) = some (n, sep :: rest) :=
  scanDigits_padded hw hn (by simpa using hsep)

theorem scanYear_yearText_sep (y : Int) (sep : Char) (hsep : sep.isDigit = false)
    (rest : List Char) :
    scanYear (dropBlank ((yearText y).toList ++ sep :: rest)) = some (y, sep :: rest) :=
  scanYear_yearText y (by simpa using hsep)

end Scan

/-! ## The whole text -/

theorem isoText_toList (f : Fields) :
    (f.dateText ++ "T" ++ f.clockText ++ "." ++ padded 9 f.nano).toList =
      (yearText f.year).toList ++ '-' :: ((padded 2 f.month).toList ++ '-' ::
        ((padded 2 f.day).toList ++ 'T' :: ((padded 2 f.hour).toList ++ ':' ::
          ((padded 2 f.minute).toList ++ ':' :: ((padded 2 f.second).toList ++ '.' ::
            (padded 9 f.nano).toList))))) := by
  simp only [Fields.dateText, Fields.clockText, dateText, String.toList_append,
    String.reduceToList, List.append_assoc, List.cons_append, List.nil_append]

/-- The ISO text of fields of at most two digits and a fraction of nine reads back as the
fields. -/
theorem readPieces_isoText (f : Fields) (hm : f.month < 100) (hd : f.day < 100)
    (hh : f.hour < 100) (hmi : f.minute < 100) (hs : f.second < 100) (hn : f.nano < 10 ^ 9) :
    readPieces isoPieces (f.dateText ++ "T" ++ f.clockText ++ "." ++ padded 9 f.nano).toList {} =
      some
        { year := some f.year, month := some f.month, day := some f.day, hour := some f.hour,
          minute := some f.minute, second := some f.second, nano := some f.nano } := by
  rw [isoText_toList]
  simp only [isoPieces, dateTimePieces, List.cons_append, List.nil_append, readPieces,
    scanYear_yearText_sep f.year '-' rfl,
    scanDigits_padded_sep (w := 2) (by decide) (show f.month < 10 ^ 2 by omega) '-' rfl,
    scanDigits_padded_sep (w := 2) (by decide) (show f.day < 10 ^ 2 by omega) 'T' rfl,
    scanDigits_padded_sep (w := 2) (by decide) (show f.hour < 10 ^ 2 by omega) ':' rfl,
    scanDigits_padded_sep (w := 2) (by decide) (show f.minute < 10 ^ 2 by omega) ':' rfl,
    scanDigits_padded_sep (w := 2) (by decide) (show f.second < 10 ^ 2 by omega) '.' rfl,
    scanFraction_padded hn, Option.bind_some, if_true]

theorem isBlank_of_mem_yearText {y : Int} {c : Char} (h : c ∈ (yearText y).toList) :
    isBlank c = false := by
  unfold yearText at h
  split at h
  · exact isBlank_of_isDigit (isDigit_of_mem_padded h)
  · rw [String.toList_append, List.mem_append] at h
    rcases h with h | h
    · split at h <;> simp only [String.reduceToList, List.mem_cons, List.not_mem_nil,
        or_false] at h <;> subst h <;> decide
    · exact isBlank_of_isDigit (isDigit_of_mem_padded h)

theorem isoText_not_blank (f : Fields) :
    ∀ c ∈ (f.dateText ++ "T" ++ f.clockText ++ "." ++ padded 9 f.nano).toList,
      isBlank c = false := by
  intro c hc
  rw [isoText_toList] at hc
  simp only [List.mem_append, List.mem_cons] at hc
  rcases hc with h | rfl | h | rfl | h | rfl | h | rfl | h | rfl | h | rfl | h
  · exact isBlank_of_mem_yearText h
  all_goals first
    | decide
    | exact isBlank_of_isDigit (isDigit_of_mem_padded h)

theorem isValidDate_bounds {y : Int} {m d : Nat} (h : isValidDate y m d = true) :
    1 ≤ m ∧ m ≤ 12 ∧ 1 ≤ d ∧ d ≤ 31 := by
  have hdays : daysInMonth y m ≤ 31 := by
    unfold daysInMonth
    split <;> (try split) <;> omega
  simp only [isValidDate, Bool.and_eq_true, decide_eq_true_eq] at h
  omega

/-- The exchange text of a timestamp that a calendar holds reads back as the timestamp. -/
theorem parseStored_exchangeText {t : Timestamp} (ht : t.Valid) :
    Timestamp.parseStored? t.exchangeText = some t := by
  obtain ⟨hh, hmi, hs, -, hn⟩ := t.fields_clock
  have hdate := Timestamp.fields_date_valid ht.inRange
  obtain ⟨-, hm, -, hd⟩ := isValidDate_bounds hdate
  have hread := readPieces_isoText t.fields (by omega) (by omega) (by omega) (by omega)
    (by omega) (by simpa using hn)
  unfold Timestamp.parseStored? readTimestamp? Timestamp.exchangeText
  rw [hread]
  simp only [Reading.timestamp?, Option.bind_eq_bind, Option.bind_some, Option.getD_some, hdate,
    Bool.not_true, Bool.false_eq_true, ↓reduceIte]
  rw [if_neg (by omega)]
  -- the fields read are the fields written, and those put back together are the timestamp
  exact congrArg some (Timestamp.ofFields_fields ht.leapEndsMinute)

end RecordMap.Time
