import RecordMap.Proofs.Time.Civil
import RecordMap.Time.Clock

/-!
# Timestamps and their fields

A timestamp broken into its fields and put back together is the timestamp again, as long as a
leap second stands where the fields can show it, after the last second of a minute
(`Timestamp.ofFields_fields`). The clock fields of every timestamp are in range, second 60
exactly in a leap second (`Timestamp.fields_clock`), and the date of a timestamp in the
representable days is a real one (`Timestamp.fields_date_valid`).
-/

namespace RecordMap.Time

namespace Timestamp

/-- A timestamp as a calendar holds it: in the representable days, and a leap second only
after the last second of a minute. -/
structure Valid (t : Timestamp) : Prop where
  inRange : t.inRange = true
  leapEndsMinute : t.leap = true → t.seconds % 60 = 59

instance (t : Timestamp) : Decidable t.Valid :=
  decidable_of_iff (t.inRange = true ∧ (t.leap = true → t.seconds % 60 = 59))
    ⟨fun ⟨a, b⟩ => ⟨a, b⟩, fun ⟨a, b⟩ => ⟨a, b⟩⟩

theorem fields_eq (t : Timestamp) :
    t.fields =
      { year := (civilOfDays t.day).1, month := (civilOfDays t.day).2.1,
        day := (civilOfDays t.day).2.2, hour := t.ofDay / 1000000000 / 3600,
        minute := t.ofDay / 1000000000 / 60 % 60,
        second := if t.leap then 60 else t.ofDay / 1000000000 % 60,
        nano := t.ofDay % 1000000000 } := rfl

theorem ofDay_lt (t : Timestamp) : t.ofDay < 86400000000000 := by
  unfold ofDay nanosPerDay nanosPerSecond
  omega

theorem fields_clock (t : Timestamp) :
    t.fields.hour < 24 ∧ t.fields.minute < 60 ∧ t.fields.second ≤ 60 ∧
      (t.fields.second = 60 ↔ t.leap = true) ∧ t.fields.nano < 1000000000 := by
  have hday := t.ofDay_lt
  rw [fields_eq]
  dsimp only
  refine ⟨by omega, by omega, by split <;> omega, ?_, by omega⟩
  cases t.leap
  · simp only [Bool.false_eq_true, if_false, iff_false]
    omega
  · simp only [if_true]

theorem fields_date_valid {t : Timestamp} (h : t.inRange = true) :
    isValidDate t.fields.year t.fields.month t.fields.day = true := by
  simp only [inRange, decide_eq_true_eq] at h
  exact civilOfDays_isValidDate h.1 h.2

/-- Putting the fields back together gives the timestamp, a leap second included when it ends
a minute. -/
theorem ofFields_fields {t : Timestamp} (hleap : t.leap = true → t.seconds % 60 = 59) :
    ofFields t.fields = t := by
  obtain ⟨nanos, leap⟩ := t
  rw [fields_eq]
  simp only [ofFields, daysOfCivil_civilOfDays, mk.injEq]
  simp only [day, ofDay, seconds, nanosPerDay, nanosPerSecond] at hleap ⊢
  -- the second of the minute is the one the nanoseconds count, or 59 before a leap second
  cases leap with
  | false =>
    simp only [Bool.false_eq_true, if_false, decide_eq_false_iff_not]
    constructor
    · split <;> omega
    · omega
  | true =>
    have h59 := hleap rfl
    simp only [if_true, decide_true, and_true]
    omega

end Timestamp

end RecordMap.Time
