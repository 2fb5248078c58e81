import RecordMap.Value.Decimal
import RecordMap.Proofs.Time.Exchange
import Mathlib.Algebra.Order.Field.Power
import Mathlib.Tactic.FieldSimp
import Mathlib.Tactic.Linarith
import Mathlib.Tactic.Ring

/-!
# The text of a decimal

`Decimal.render` writes the exact numeral of `digits · 10 ^ (-scale)` for every 128-bit
`digits` and every scale (`render_denotes_exactly`). A scale of zero or less gives the digits of
`digits` followed by `-scale` zeros (or `0`); a positive scale gives a sign, the whole part in
its own digits, a point, and exactly `scale` fraction digits.

The code takes whole part and fraction from a division by `10 ^ scale` only while that power
fits 128 bits, and beyond 38 digits takes the whole part as zero and every digit as fraction.
Both agree with the division (`render_positive`), because no 128-bit magnitude reaches
`10 ^ 39`. The numeral is read by `numeralValue?`, a reader of decimal text written on its own.
-/

namespace RecordMap

open RecordMap.Numeral RecordMap.Time

namespace Decimal

/-! ## Reading decimal text -/

/-- The number unsigned decimal text stands for: one digit or more, then optionally a point with
one digit or more after it. Other text stands for no number. -/
def unsignedValue? (cs : List Char) : Option ℚ :=
  let whole := cs.takeWhile Char.isDigit
  if whole = [] then none
  else
    match cs.dropWhile Char.isDigit with
    | [] => some (Nat.ofDigitChars 10 whole 0 : ℚ)
    | '.' :: frac =>
      if frac ≠ [] ∧ frac.all Char.isDigit then
        some (Nat.ofDigitChars 10 whole 0 + (Nat.ofDigitChars 10 frac 0 : ℚ) / 10 ^ frac.length)
      else none
    | _ => none

/-- The number decimal text stands for: unsigned text, or `-` and unsigned text. -/
def numeralValue? (s : String) : Option ℚ :=
  match s.toList with
  | '-' :: cs => (unsignedValue? cs).map Neg.neg
  | cs => unsignedValue? cs

example : numeralValue? "-12.50" = some (-25 / 2) := by decide +kernel

section Reading

variable {ws fs : List Char}

theorem unsignedValue?_digits (hws : ∀ c ∈ ws, c.isDigit = true) (hne : ws ≠ []) :
    unsignedValue? ws = some (Nat.ofDigitChars 10 ws 0 : ℚ) := by
  have htake : ws.takeWhile Char.isDigit = ws := by
    simpa using @List.takeWhile_append_of_pos _ Char.isDigit ws [] hws
  have hdrop : ws.dropWhile Char.isDigit = [] := by
    simpa using @List.dropWhile_append_of_pos _ Char.isDigit ws [] hws
  simp only [unsignedValue?, htake, hdrop, hne, if_false]

theorem unsignedValue?_point (hws : ∀ c ∈ ws, c.isDigit = true) (hne : ws ≠ [])
    (hfs : ∀ c ∈ fs, c.isDigit = true) (hfne : fs ≠ []) :
    unsignedValue? (ws ++ '.' :: fs) =
      some (Nat.ofDigitChars 10 ws 0 + (Nat.ofDigitChars 10 fs 0 : ℚ) / 10 ^ fs.length) := by
  have hpoint : Char.isDigit '.' = false := by decide
  have htake : (ws ++ '.' :: fs).takeWhile Char.isDigit = ws := by
    simp [List.takeWhile_append_of_pos hws, hpoint]
  have hdrop : (ws ++ '.' :: fs).dropWhile Char.isDigit = '.' :: fs := by
    simp [List.dropWhile_append_of_pos hws, hpoint]
  have hall : fs.all Char.isDigit = true := List.all_eq_true.2 hfs
  simp [unsignedValue?, htake, hdrop, hne, hall, hfne]

theorem numeralValue?_unsigned {cs : List Char} (hcs : ∀ c ∈ cs.head?, c.isDigit = true) :
    numeralValue? (String.ofList cs) = unsignedValue? cs := by
  cases cs with
  | nil => rfl
  | cons c cs =>
    have hc : c ≠ '-' := by
      rintro rfl
      exact absurd (hcs '-' rfl) (by decide)
    simp only [numeralValue?, String.toList_ofList]
    split
    · rename_i h
      exact absurd (List.cons.inj h).1 hc
    · rfl

theorem numeralValue?_minus (cs : List Char) :
    numeralValue? (String.ofList ('-' :: cs)) = (unsignedValue? cs).map Neg.neg := by
  simp [numeralValue?]

end Reading

/-! ## Digits of whole numbers -/

theorem isDigit_of_mem_toDigits {n : Nat} {c : Char} (h : c ∈ Nat.toDigits 10 n) :
    c.isDigit = true :=
  Nat.isDigit_of_mem_toDigits (by decide) (by decide) h

theorem toString_int_toList (i : Int) :
    (toString i).toList = (if i < 0 then ['-'] else []) ++ Nat.toDigits 10 i.natAbs := by
  rw [Int.toString_eq_repr, Int.repr_eq_if]
  by_cases h : 0 ≤ i
  · have hnat : i.toNat = i.natAbs := by omega
    simp [h, hnat, show ¬ i < 0 by omega]
  · have hnat : (-i).toNat = i.natAbs := by omega
    simp [h, hnat, show i < 0 by omega]

theorem ofDigitChars_toDigits_zeros (n k : Nat) :
    Nat.ofDigitChars 10 (Nat.toDigits 10 n ++ List.replicate k '0') 0 = n * 10 ^ k := by
  rw [Nat.ofDigitChars_append, Nat.ofDigitChars_replicate_zero, Nat.ofDigitChars_ten_toDigits,
    Nat.mul_comm]

theorem zeroPadded_eq_padded : zeroPadded = padded := rfl

/-! ## The two regimes of a positive scale -/

theorem natAbs_lt_pow_ten {i : Int} (hi : IntWidth.i128.admits i) {s : Nat} (hs : 38 < s) :
    i.natAbs < 10 ^ s := by
  have hb : i.natAbs < 10 ^ 39 := by
    have h := of_decide_eq_true hi
    simp only [IntWidth.lo, IntWidth.hi] at h
    omega
  exact lt_of_lt_of_le hb (Nat.pow_le_pow_right (by decide) hs)

theorem render_positive (d : Decimal) (hd : IntWidth.i128.admits d.digits) (hs : 0 < d.scale) :
    d.render = (if d.digits < 0 then "-" else "") ++
      toString (d.digits.natAbs / 10 ^ d.scale.toNat) ++ "." ++
      zeroPadded d.scale.toNat (d.digits.natAbs % 10 ^ d.scale.toNat) := by
  rw [render, if_neg (by omega)]
  by_cases hfits : d.scale.toNat ≤ 38
  · simp only [hfits, if_true, Nat.pow_eq]
  · -- past 38 digits the code takes no whole part: the division agrees
    have hlt := natAbs_lt_pow_ten hd (s := d.scale.toNat) (by omega)
    simp only [hfits, if_false, Nat.div_eq_of_lt hlt, Nat.mod_eq_of_lt hlt]

theorem padded_fraction {s : Nat} (m : Nat) (hs : 0 < s) :
    (padded s (m % 10 ^ s)).toList.length = s ∧
      (∀ c ∈ (padded s (m % 10 ^ s)).toList, c.isDigit = true) ∧
      (padded s (m % 10 ^ s)).toList ≠ [] ∧
      Nat.ofDigitChars 10 (padded s (m % 10 ^ s)).toList 0 = m % 10 ^ s :=
  ⟨length_padded hs (Nat.mod_lt _ (by positivity)), fun _ => isDigit_of_mem_padded,
    padded_ne_nil _ _, digitsValue_padded _ _⟩

/-! ## The number the text stands for -/

theorem numeralValue?_signed (p : Prop) [Decidable p] {cs : List Char}
    (hcs : ∀ c ∈ cs.head?, c.isDigit = true) :
    numeralValue? ((if p then "-" else "") ++ String.ofList cs) =
      (unsignedValue? cs).map fun x => if p then -x else x := by
  by_cases hp : p
  · simp only [hp, if_true]
    rw [show "-" ++ String.ofList cs = String.ofList ('-' :: cs) by simp, numeralValue?_minus]
  · simp only [hp, if_false, String.empty_append, numeralValue?_unsigned hcs]
    cases unsignedValue? cs <;> rfl

theorem whole_add_fraction (m s : Nat) :
    ((m / 10 ^ s : Nat) : ℚ) + ((m % 10 ^ s : Nat) : ℚ) / 10 ^ s = (m : ℚ) / 10 ^ s := by
  have hpos : (10 : ℚ) ^ s ≠ 0 := by positivity
  have hsplit : ((10 ^ s * (m / 10 ^ s) + m % 10 ^ s : Nat) : ℚ) = m := by
    rw [Nat.div_add_mod]
  push_cast at hsplit
  field_simp
  linarith

theorem signed_natAbs_mul (i : Int) (x : ℚ) :
    (if i < 0 then -((i.natAbs : ℚ) * x) else (i.natAbs : ℚ) * x) = (i : ℚ) * x := by
  rw [Nat.cast_natAbs, Int.cast_abs]
  split
  · have hneg : (i : ℚ) < 0 := by exact_mod_cast ‹i < 0›
    rw [abs_of_neg hneg]
    ring
  · have hnonneg : (0 : ℚ) ≤ i := by exact_mod_cast not_lt.1 ‹¬ i < 0›
    rw [abs_of_nonneg hnonneg]

theorem render_nonpositive (d : Decimal) (hs : d.scale ≤ 0) :
    d.render = if d.digits = 0 then "0" else (if d.digits < 0 then "-" else "") ++
      String.ofList (Nat.toDigits 10 d.digits.natAbs ++ List.replicate d.scale.natAbs '0') := by
  rw [render, if_pos hs]
  split
  · rfl
  · apply String.toList_injective
    rw [String.toList_append, toString_int_toList]
    by_cases hneg : d.digits < 0 <;> simp [hneg]

theorem value_nonpositive (d : Decimal) (hs : d.scale ≤ 0) :
    numeralValue? d.render = some ((d.digits : ℚ) * 10 ^ (-d.scale)) := by
  have hpow : (10 : ℚ) ^ (-d.scale) = 10 ^ d.scale.natAbs := by
    rw [show -d.scale = (d.scale.natAbs : Int) by omega, zpow_natCast]
  rw [render_nonpositive d hs, hpow]
  split
  · rename_i h0
    rw [h0]
    simp only [Int.cast_zero, zero_mul]
    decide
  · have hcs : ∀ c ∈ Nat.toDigits 10 d.digits.natAbs ++ List.replicate d.scale.natAbs '0',
        c.isDigit = true := by
      intro c hc
      rcases List.mem_append.1 hc with h | h
      · exact isDigit_of_mem_toDigits h
      · rw [List.eq_of_mem_replicate h]
        rfl
    have hhead : ∀ c ∈ (Nat.toDigits 10 d.digits.natAbs ++
        List.replicate d.scale.natAbs '0').head?, c.isDigit = true :=
      fun c hc => hcs c (List.mem_of_head? hc)
    rw [numeralValue?_signed _ hhead, unsignedValue?_digits hcs (by simp),
      ofDigitChars_toDigits_zeros]
    simp only [Option.map_some, Nat.cast_mul, Nat.cast_pow, Nat.cast_ofNat, signed_natAbs_mul]

theorem value_positive (d : Decimal) (hd : IntWidth.i128.admits d.digits) (hs : 0 < d.scale) :
    numeralValue? d.render = some ((d.digits : ℚ) * 10 ^ (-d.scale)) := by
  have hpow : (10 : ℚ) ^ (-d.scale) = ((10 : ℚ) ^ d.scale.toNat)⁻¹ := by
    rw [show -d.scale = -(d.scale.toNat : Int) by omega, zpow_neg, zpow_natCast]
  obtain ⟨hlen, hdig, hne, hval⟩ :=
    padded_fraction d.digits.natAbs (show 0 < d.scale.toNat by omega)
  have hws : ∀ c ∈ Nat.toDigits 10 (d.digits.natAbs / 10 ^ d.scale.toNat), c.isDigit = true :=
    fun _ => isDigit_of_mem_toDigits
  have hhead : ∀ c ∈ (Nat.toDigits 10 (d.digits.natAbs / 10 ^ d.scale.toNat) ++
      '.' :: (padded d.scale.toNat (d.digits.natAbs % 10 ^ d.scale.toNat)).toList).head?,
      c.isDigit = true := by
    intro c hc
    rw [List.head?_append_of_ne_nil _ Nat.toDigits_ne_nil] at hc
    exact hws c (List.mem_of_head? hc)
  have htext : d.render = (if d.digits < 0 then "-" else "") ++
      String.ofList (Nat.toDigits 10 (d.digits.natAbs / 10 ^ d.scale.toNat) ++
        '.' :: (padded d.scale.toNat (d.digits.natAbs % 10 ^ d.scale.toNat)).toList) := by
    rw [render_positive d hd hs, zeroPadded_eq_padded]
    simp [String.append_assoc, Nat.repr_eq_ofList_toDigits]
  rw [htext, numeralValue?_signed _ hhead, unsignedValue?_point hws Nat.toDigits_ne_nil hdig hne,
    hlen, hval, Nat.ofDigitChars_ten_toDigits, whole_add_fraction, hpow, div_eq_mul_inv]
  simp only [Option.map_some, signed_natAbs_mul]

/-- The text of a decimal with 128-bit digits is the exact numeral of `digits · 10 ^ (-scale)`.
With a scale of zero or less it is `0` for zero digits, and otherwise the digits (after a minus
for negative ones) followed by `-scale` zeros. With a positive scale it is a minus exactly for
negative digits, the whole part in its own digits (so `0` or no leading zero), a point, and
exactly `scale` fraction digits; this holds past 38 fraction digits too, where the code forms no
power of ten. -/
theorem render_denotes_exactly (d : Decimal) (hd : IntWidth.i128.admits d.digits) :
    numeralValue? d.render = some ((d.digits : ℚ) * 10 ^ (-d.scale)) ∧
    (d.scale ≤ 0 → d.render = if d.digits = 0 then "0" else (if d.digits < 0 then "-" else "") ++
      String.ofList (Nat.toDigits 10 d.digits.natAbs ++ List.replicate d.scale.natAbs '0')) ∧
    (0 < d.scale → ∃ frac : List Char,
      d.render = (if d.digits < 0 then "-" else "") ++
        String.ofList (Nat.toDigits 10 (d.digits.natAbs / 10 ^ d.scale.toNat)) ++ "." ++
        String.ofList frac ∧
      frac.length = d.scale.toNat ∧ ∀ c ∈ frac, c.isDigit = true) := by
  refine ⟨?_, render_nonpositive d, fun hs => ?_⟩
  · by_cases hs : d.scale ≤ 0
    · exact value_nonpositive d hs
    · exact value_positive d hd (by omega)
  · obtain ⟨hlen, hdig, -, -⟩ := padded_fraction d.digits.natAbs (show 0 < d.scale.toNat by omega)
    refine ⟨_, ?_, hlen, hdig⟩
    rw [render_positive d hd hs, zeroPadded_eq_padded, String.ofList_toList]
    simp [Nat.repr_eq_ofList_toDigits]

/-- The least 128-bit digits at 40 fraction digits, where `10 ^ 40` does not fit 128 bits. -/
theorem render_least_digits_past_u128 :
    let d : Decimal := ⟨-170141183460469231731687303715884105728, 40⟩
    IntWidth.i128.admits d.digits = true ∧
    numeralValue? d.render = some ((d.digits : ℚ) * 10 ^ (-d.scale)) ∧
    (d.scale ≤ 0 → d.render = if d.digits = 0 then "0" else (if d.digits < 0 then "-" else "") ++
      String.ofList (Nat.toDigits 10 d.digits.natAbs ++ List.replicate d.scale.natAbs '0')) ∧
    (0 < d.scale → ∃ frac : List Char,
      d.render = (if d.digits < 0 then "-" else "") ++
        String.ofList (Nat.toDigits 10 (d.digits.natAbs / 10 ^ d.scale.toNat)) ++ "." ++
        String.ofList frac ∧
      frac.length = d.scale.toNat ∧ ∀ c ∈ frac, c.isDigit = true) :=
  ⟨by decide, render_denotes_exactly ⟨-170141183460469231731687303715884105728, 40⟩ (by decide)⟩

example : Decimal.render ⟨-12, 40⟩ = "-0.0000000000000000000000000000000000000012" := by decide

end Decimal

end RecordMap
