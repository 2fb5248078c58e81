import RecordMap.Value.Coerce
import RecordMap.Proofs.Numeral.FloatBits

/-!
# Converting to whole-number types

A value converted to a whole-number type (an integer type, or an enumeration's ordinal held in
32 bits) keeps its number or has none. A boolean becomes 0 or 1, and an integer is kept when the
type's range holds it (`coerce_int_whole`). A double is rounded to the nearest integer, a tie
to the even one, and kept when the type's range holds it; a NaN and the infinities have none
(`coerce_float_whole`).

The one exception is the double `2 ^ 63`, one more than the largest 64-bit integer: the bound it
is checked against is that number itself, so it passes, and the conversion clamps it to the
largest 64-bit integer. Every narrower type refuses it, so there a double converts exactly
(`coerce_float_exact`). A decimal goes through its double, rounded to an integral double and
converted to 64 bits with a clamp before the range is checked. That is the double's rounding,
clamped (`saturateI64_roundEven`), so a decimal converts as its double does, except that a 64-bit
type clamps every rounding beyond its range and an infinite double, and a NaN becomes 0
(`coerce_decimal_whole`); narrower types convert decimals exactly (`coerce_decimal_exact`).
`coerce_whole_number` puts the four together.
-/

namespace RecordMap

open RecordMap.Numeral

namespace DataType

theorem fits_of_width_admits (t : DataType) {i : Int} (h : t.width.admits i = true) :
    minI64 ≤ i ∧ i ≤ maxI64 := by
  have hwithin : IntWidth.i64.lo ≤ t.width.lo ∧ t.width.hi ≤ IntWidth.i64.hi := by
    cases t <;> simp only [width] <;> decide
  simp only [IntWidth.admits, decide_eq_true_eq] at h
  exact ⟨Int.le_trans hwithin.1 h.1, Int.le_trans h.2 hwithin.2⟩

theorem width_admits_maxI64 (t : DataType) : t.width.admits maxI64 = true ↔ t.width = .i64 := by
  cases t <;> simp only [width] <;> decide

theorem width_admits_minI64 (t : DataType) : t.width.admits minI64 = true ↔ t.width = .i64 := by
  cases t <;> simp only [width] <;> decide

theorem width_admits_zero (t : DataType) : t.width.admits 0 = true := by
  cases t <;> simp only [width] <;> decide

theorem eq_int64_of_width {t : DataType} (ht : t.isIntegral = true) (hw : t.width = .i64) :
    t = .int64 := by
  cases t <;> simp_all [isIntegral, isInteger, width]

theorem checkRange_eq_ok_iff {t : DataType} {i n : Int} :
    t.checkRange i = .ok n ↔ t.width.admits i = true ∧ n = i := by
  unfold checkRange
  by_cases h : t.width.admits i = true
  · rw [if_pos h]
    exact ⟨fun he => ⟨h, (Except.ok.inj he).symm⟩, fun ⟨_, hn⟩ => hn ▸ rfl⟩
  · rw [if_neg h]
    exact ⟨fun he => (by cases he), fun ⟨ha, _⟩ => absurd ha h⟩

theorem width_admits_of_not_fits (t : DataType) {i : Int} (h : i < minI64 ∨ maxI64 < i) :
    t.width.admits i = false := by
  cases hadm : t.width.admits i
  · rfl
  · have := t.fits_of_width_admits hadm
    simp only [minI64, maxI64] at h this
    omega

end DataType

theorem DataType.checkRange_clampI64_eq_ok_iff {t : DataType} {r n : Int} (hlo : minI64 ≤ r)
    (hhi : r ≤ maxI64 + 1) :
    t.checkRange (clampI64 r) = .ok n ↔
      t.width.admits r = true ∧ n = r ∨ t.width = .i64 ∧ r = maxI64 + 1 ∧ n = maxI64 := by
  rw [DataType.checkRange_eq_ok_iff]
  by_cases hmax : r = maxI64 + 1
  · subst hmax
    rw [show clampI64 (maxI64 + 1) = maxI64 by decide, DataType.width_admits_maxI64,
      t.width_admits_of_not_fits (Or.inr (Int.lt_succ maxI64))]
    simp
  · rw [clampI64_of_fits ⟨hlo, by omega⟩]
    simp [hmax]

/-- Checking a clamped integer: the integer itself where the type's range holds it, and for a
64-bit type the nearer end of the range in place of an integer beyond it. -/
theorem DataType.checkRange_clampI64_iff {t : DataType} {r n : Int} :
    t.checkRange (clampI64 r) = .ok n ↔
      t.width.admits r = true ∧ n = r ∨
        t.width = .i64 ∧ (r < minI64 ∧ n = minI64 ∨ maxI64 < r ∧ n = maxI64) := by
  rw [DataType.checkRange_eq_ok_iff]
  by_cases hlo : r < minI64
  · -- below the range: only a 64-bit type takes its least integer
    rw [show clampI64 r = minI64 by unfold clampI64 minI64 maxI64 at *; omega,
      DataType.width_admits_minI64, t.width_admits_of_not_fits (.inl hlo)]
    have : ¬maxI64 < r := by unfold minI64 maxI64 at *; omega
    simp [hlo, this, eq_comm]
  · by_cases hhi : maxI64 < r
    · rw [show clampI64 r = maxI64 by unfold clampI64 minI64 maxI64 at *; omega,
        DataType.width_admits_maxI64, t.width_admits_of_not_fits (.inr hhi)]
      simp [hlo, hhi, eq_comm]
    · rw [clampI64_of_fits ⟨by omega, by omega⟩]
      simp [hlo, hhi]

namespace Value

theorem map_int_eq_ok_iff {e : Except TypeFault Int} {v : Value} :
    e.map Value.int = .ok v ↔ ∃ n, e = .ok n ∧ v = .int n := by
  cases e <;> simp [Except.map, eq_comm]

/-- A double as a whole number: its rounding, when some type's range holds it, and the largest
64-bit integer for a 64-bit type when the rounding is one more. -/
theorem wholeOfFloat_eq_ok_iff {x : Float} {t : DataType} {n : Int} :
    wholeOfFloat x t = .ok n ↔ ∃ r, roundEven? x = some r ∧
      (t.width.admits r = true ∧ n = r ∨ t.width = .i64 ∧ r = maxI64 + 1 ∧ n = maxI64) := by
  have h63 : ((Nat.pow 2 63 : Nat) : Int) = maxI64 + 1 := by decide
  unfold wholeOfFloat
  cases roundEven? x with
  | none => simp
  | some r =>
    simp only [Option.some.injEq, exists_eq_left', h63]
    by_cases hout : r < minI64 ∨ r > maxI64 + 1
    · -- below the range, or above the bound: no type holds it
      rw [if_pos hout, t.width_admits_of_not_fits (by omega)]
      simp only [reduceCtorEq, Bool.false_eq_true, false_and, false_or, false_iff, not_and]
      intro _ hr
      simp only [minI64, maxI64] at hout hr
      omega
    · -- within the range, or the bound itself, which the clamp moves to the largest integer
      rw [if_neg hout, DataType.checkRange_clampI64_eq_ok_iff (by omega) (by omega)]

theorem coerce_float_of_isIntegral {t : DataType} (ht : t.isIntegral = true) (x : Float) :
    coerce (.float x) t = (wholeOfFloat x t).map .int := by
  cases t <;> first | rfl | simp [DataType.isIntegral, DataType.isInteger] at ht

theorem coerce_int_of_isIntegral {t : DataType} (ht : t.isIntegral = true) (i : Int) :
    coerce (.int i) t = (t.checkRange i).map .int := by
  cases t <;> first | rfl | simp [DataType.isIntegral, DataType.isInteger] at ht

theorem coerce_decimal_of_isIntegral {t : DataType} (ht : t.isIntegral = true) (d : Decimal) :
    coerce (.decimal d) t = (t.checkRange (saturateI64 (roundEven d.toFloat))).map .int := by
  cases t <;> first | rfl | simp [DataType.isIntegral, DataType.isInteger] at ht

theorem coerce_bool_whole {t : DataType} (ht : t.isIntegral = true) (b : Bool) :
    coerce (.bool b) t = .ok (.int (if b then 1 else 0)) := by
  cases t <;> first | rfl | simp [DataType.isIntegral, DataType.isInteger] at ht

theorem coerce_int_whole {t : DataType} (ht : t.isIntegral = true) (i : Int) (v : Value) :
    coerce (.int i) t = .ok v ↔ t.width.admits i = true ∧ v = .int i := by
  rw [coerce_int_of_isIntegral ht, map_int_eq_ok_iff]
  simp only [DataType.checkRange_eq_ok_iff]
  constructor
  · rintro ⟨_, ⟨hadm, rfl⟩, rfl⟩
    exact ⟨hadm, rfl⟩
  · rintro ⟨hadm, rfl⟩
    exact ⟨i, ⟨hadm, rfl⟩, rfl⟩

theorem coerce_float_whole {t : DataType} (ht : t.isIntegral = true) (x : Float) (v : Value) :
    coerce (.float x) t = .ok v ↔ ∃ r, roundEven? x = some r ∧
      (t.width.admits r = true ∧ v = .int r ∨ t = .int64 ∧ r = maxI64 + 1 ∧ v = .int maxI64) := by
  rw [coerce_float_of_isIntegral ht, map_int_eq_ok_iff]
  simp only [wholeOfFloat_eq_ok_iff]
  constructor
  · rintro ⟨_, ⟨_, hr, ⟨hadm, rfl⟩ | ⟨hw, hmax, rfl⟩⟩, rfl⟩
    · exact ⟨_, hr, .inl ⟨hadm, rfl⟩⟩
    · exact ⟨_, hr, .inr ⟨DataType.eq_int64_of_width ht hw, hmax, rfl⟩⟩
  · rintro ⟨_, hr, ⟨hadm, rfl⟩ | ⟨rfl, hmax, rfl⟩⟩
    · exact ⟨_, ⟨_, hr, .inl ⟨hadm, rfl⟩⟩, rfl⟩
    · exact ⟨_, ⟨_, hr, .inr ⟨rfl, hmax, rfl⟩⟩, rfl⟩

/-- Into every whole-number type narrower than 64 bits, a double converts exactly: to its
rounding when the range holds it, and to nothing otherwise. -/
theorem coerce_float_exact {t : DataType} (ht : t.isIntegral = true) (h64 : t ≠ .int64)
    (x : Float) (v : Value) :
    coerce (.float x) t = .ok v ↔ ∃ r, roundEven? x = some r ∧ t.width.admits r = true ∧ v = .int r := by
  rw [coerce_float_whole ht]
  simp only [h64, false_and, or_false]

theorem coerce_decimal_of_roundEven {t : DataType} (ht : t.isIntegral = true) {d : Decimal}
    {r : Int} (hr : roundEven? d.toFloat = some r) (v : Value) :
    coerce (.decimal d) t = .ok v ↔
      t.width.admits r = true ∧ v = .int r ∨
        t = .int64 ∧ (r < minI64 ∧ v = .int minI64 ∨ maxI64 < r ∧ v = .int maxI64) := by
  rw [coerce_decimal_of_isIntegral ht, saturateI64_roundEven, hr]
  dsimp only
  rw [map_int_eq_ok_iff]
  simp only [DataType.checkRange_clampI64_iff]
  constructor
  · rintro ⟨_, ⟨hadm, rfl⟩ | ⟨hw, ⟨hlo, rfl⟩ | ⟨hhi, rfl⟩⟩, rfl⟩
    · exact .inl ⟨hadm, rfl⟩
    · exact .inr ⟨DataType.eq_int64_of_width ht hw, .inl ⟨hlo, rfl⟩⟩
    · exact .inr ⟨DataType.eq_int64_of_width ht hw, .inr ⟨hhi, rfl⟩⟩
  · rintro (⟨hadm, rfl⟩ | ⟨rfl, ⟨hlo, rfl⟩ | ⟨hhi, rfl⟩⟩)
    · exact ⟨_, .inl ⟨hadm, rfl⟩, rfl⟩
    · exact ⟨_, .inr ⟨rfl, .inl ⟨hlo, rfl⟩⟩, rfl⟩
    · exact ⟨_, .inr ⟨rfl, .inr ⟨hhi, rfl⟩⟩, rfl⟩

theorem coerce_decimal_of_nan {t : DataType} (ht : t.isIntegral = true) {d : Decimal}
    (hx : FloatShape.ofFloat d.toFloat = .nan) (v : Value) :
    coerce (.decimal d) t = .ok v ↔ v = .int 0 := by
  have hnone : roundEven? d.toFloat = none := by unfold roundEven?; rw [hx]
  rw [coerce_decimal_of_isIntegral ht, saturateI64_roundEven, hnone]
  dsimp only
  unfold saturateI64
  rw [hx, map_int_eq_ok_iff]
  simp only [DataType.checkRange_eq_ok_iff, DataType.width_admits_zero, true_and]
  constructor
  · rintro ⟨_, rfl, rfl⟩
    rfl
  · rintro rfl
    exact ⟨0, rfl, rfl⟩

theorem coerce_decimal_of_infinite {t : DataType} (ht : t.isIntegral = true) {d : Decimal}
    {neg : Bool} (hx : FloatShape.ofFloat d.toFloat = .infinite neg) (v : Value) :
    coerce (.decimal d) t = .ok v ↔ t = .int64 ∧ v = .int (if neg then minI64 else maxI64) := by
  have hnone : roundEven? d.toFloat = none := by unfold roundEven?; rw [hx]
  rw [coerce_decimal_of_isIntegral ht, saturateI64_roundEven, hnone]
  dsimp only
  unfold saturateI64
  rw [hx, map_int_eq_ok_iff]
  simp only [DataType.checkRange_eq_ok_iff]
  -- only a 64-bit type holds either end of its range
  have hend : t.width.admits (if neg then minI64 else maxI64) = true ↔ t = .int64 := by
    constructor
    · intro h
      apply DataType.eq_int64_of_width ht
      cases neg
      · exact (DataType.width_admits_maxI64 t).1 h
      · exact (DataType.width_admits_minI64 t).1 h
    · rintro rfl
      cases neg <;> rfl
  rw [← hend]
  constructor
  · rintro ⟨_, ⟨hadm, rfl⟩, rfl⟩
    exact ⟨hadm, rfl⟩
  · rintro ⟨hadm, rfl⟩
    exact ⟨_, ⟨hadm, rfl⟩, rfl⟩

/-- A decimal converts to a whole-number type through its double, as a double does: to the
double's rounding, a tie to the even one, when the type's range holds it. Beyond the range a
64-bit type clamps the rounding to the nearer end, and an infinite double to the end of its
sign, where a double itself fails; a NaN converts to 0. -/
theorem coerce_decimal_whole {t : DataType} (ht : t.isIntegral = true) (d : Decimal) (v : Value) :
    coerce (.decimal d) t = .ok v ↔
      (∃ r, roundEven? d.toFloat = some r ∧
        (t.width.admits r = true ∧ v = .int r ∨
          t = .int64 ∧ (r < minI64 ∧ v = .int minI64 ∨ maxI64 < r ∧ v = .int maxI64))) ∨
      (FloatShape.ofFloat d.toFloat = .nan ∧ v = .int 0) ∨
      (∃ neg, FloatShape.ofFloat d.toFloat = .infinite neg ∧ t = .int64 ∧
        v = .int (if neg then minI64 else maxI64)) := by
  cases hx : FloatShape.ofFloat d.toFloat with
  | finite neg m e =>
    obtain ⟨r, hr⟩ : ∃ r, roundEven? d.toFloat = some r := ⟨_, by unfold roundEven?; rw [hx]⟩
    rw [coerce_decimal_of_roundEven ht hr]
    simp [hr]
  | nan =>
    have hnone : roundEven? d.toFloat = none := by unfold roundEven?; rw [hx]
    rw [coerce_decimal_of_nan ht hx]
    simp [hnone]
  | infinite neg =>
    have hnone : roundEven? d.toFloat = none := by unfold roundEven?; rw [hx]
    rw [coerce_decimal_of_infinite ht hx]
    simp [hnone]

/-- Into every whole-number type narrower than 64 bits, a decimal converts exactly: to its
double's rounding when the range holds it, to 0 for a NaN, and to nothing otherwise. -/
theorem coerce_decimal_exact {t : DataType} (ht : t.isIntegral = true) (h64 : t ≠ .int64)
    (d : Decimal) (v : Value) :
    coerce (.decimal d) t = .ok v ↔
      (∃ r, roundEven? d.toFloat = some r ∧ t.width.admits r = true ∧ v = .int r) ∨
        (FloatShape.ofFloat d.toFloat = .nan ∧ v = .int 0) := by
  rw [coerce_decimal_whole ht]
  simp only [h64, false_and, or_false, and_false, exists_false]

/-- A number converted to a whole-number type is kept exactly or has no value, but for the clamps
of a 64-bit type. A boolean becomes 0 or 1. An integer is kept exactly when the type's range holds
it. A double becomes its rounding, a tie to the even one, exactly when the range holds that,
except that a 64-bit type also takes the rounding `2 ^ 63` and clamps it to the largest 64-bit
integer. A decimal becomes the rounding of its double when the range holds it; a 64-bit type
clamps a rounding beyond its range, or an infinite double, to the nearer end, and a NaN becomes
0. -/
theorem coerce_whole_number {t : DataType} (ht : t.isIntegral = true) (v : Value) :
    (∀ b, coerce (.bool b) t = .ok (.int (if b then 1 else 0))) ∧
      (∀ i, coerce (.int i) t = .ok v ↔ t.width.admits i = true ∧ v = .int i) ∧
      (∀ x, coerce (.float x) t = .ok v ↔ ∃ r, roundEven? x = some r ∧
        (t.width.admits r = true ∧ v = .int r ∨ t = .int64 ∧ r = maxI64 + 1 ∧ v = .int maxI64)) ∧
      ∀ d, coerce (.decimal d) t = .ok v ↔
        (∃ r, roundEven? d.toFloat = some r ∧
          (t.width.admits r = true ∧ v = .int r ∨
            t = .int64 ∧ (r < minI64 ∧ v = .int minI64 ∨ maxI64 < r ∧ v = .int maxI64))) ∨
        (FloatShape.ofFloat d.toFloat = .nan ∧ v = .int 0) ∨
        (∃ neg, FloatShape.ofFloat d.toFloat = .infinite neg ∧ t = .int64 ∧
          v = .int (if neg then minI64 else maxI64)) :=
  ⟨coerce_bool_whole ht, fun i => coerce_int_whole ht i v, fun x => coerce_float_whole ht x v,
    fun d => coerce_decimal_whole ht d v⟩

/-- Into a 64-bit integer, the largest 64-bit integer comes from a double rounding to it or to
one more, and from a decimal whose double rounds to it or beyond, or is positive infinity. -/
theorem int64_whole_number :
    DataType.int64.isIntegral = true ∧
      ((∀ b, coerce (.bool b) .int64 = .ok (.int (if b then 1 else 0))) ∧
        (∀ i, coerce (.int i) .int64 = .ok (.int maxI64) ↔
          DataType.int64.width.admits i = true ∧ Value.int maxI64 = .int i) ∧
        (∀ x, coerce (.float x) .int64 = .ok (.int maxI64) ↔ ∃ r, roundEven? x = some r ∧
          (DataType.int64.width.admits r = true ∧ Value.int maxI64 = .int r ∨
            DataType.int64 = .int64 ∧ r = maxI64 + 1 ∧ Value.int maxI64 = .int maxI64)) ∧
        ∀ d, coerce (.decimal d) .int64 = .ok (.int maxI64) ↔
          (∃ r, roundEven? d.toFloat = some r ∧
            (DataType.int64.width.admits r = true ∧ Value.int maxI64 = .int r ∨
              DataType.int64 = .int64 ∧ (r < minI64 ∧ Value.int maxI64 = .int minI64 ∨
                maxI64 < r ∧ Value.int maxI64 = .int maxI64))) ∨
          (FloatShape.ofFloat d.toFloat = .nan ∧ Value.int maxI64 = .int 0) ∨
          (∃ neg, FloatShape.ofFloat d.toFloat = .infinite neg ∧ DataType.int64 = .int64 ∧
            Value.int maxI64 = .int (if neg then minI64 else maxI64))) :=
  ⟨rfl, coerce_whole_number rfl _⟩

end Value

end RecordMap
