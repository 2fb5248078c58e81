import RecordMap.Proofs.Database.Codec

/-!
# The range of tick storage

Which tick counts read back, and which values can be stored as ticks again.

An interval is stored exactly when its nanoseconds in hundreds, toward zero, fit in 64 bits
(`Interval.ticks?_ok_iff`): the whole seconds in ticks lie between zero and that count, so
the intermediate product never leaves the range first. Every 64-bit count reads back as an
interval that stores as the same count (`ticks?_intervalOfTicks`).

A count reads back as a timestamp exactly when its distance from the Unix epoch fits in 64 bits,
so from `minI64 + unixEpochTicks` up (`timestampOfTicks_ok_iff`). Storing a timestamp counts its
whole seconds, rounded down, in ticks before it adds the rest, and that product has to fit too
(`Timestamp.ticks?_ok_iff`). Near the bottom of the range the product is the larger in size:
the counts read back from the first `4775808` counts of the readable range, whose seconds round
down to `-922337203686`, cannot be stored again, and every other one stores as itself
(`ticks?_timestampOfTicks`). `tick_storage_round_trip` puts these together.
-/

namespace RecordMap

open RecordMap.Time RecordMap.Numeral

/-! ## Intervals -/

theorem Time.Interval.ticks?_ok_iff (d : Interval) :
    (∃ n, d.ticks? = .ok n) ↔ fitsI64 (d.nanos.tdiv 100) = true := by
  simp only [Interval.ticks?_eq_ok_iff, exists_eq_left]

theorem ticks?_intervalOfTicks {k : Int} (hk : fitsI64 k = true) :
    (intervalOfTicks k).ticks? = .ok k := by
  have hk' : (k * 100).tdiv 100 = k := Int.mul_tdiv_cancel k (by decide)
  rw [Interval.ticks?_eq_ok_iff]
  exact ⟨hk'.symm, hk⟩

/-! ## Timestamps -/

theorem Time.Timestamp.ticks?_ok_iff (t : Timestamp) :
    (∃ n, t.ticks? = .ok n) ↔
      minI64 ≤ t.seconds * ticksPerSecond ∧
        fitsI64 (t.linearNanos / 100 + unixEpochTicks) = true := by
  simp only [Timestamp.ticks?_eq_ok_iff, exists_eq_left]

theorem timestampOfTicks_of_not_fits {k : Int} (h : fitsI64 (k - unixEpochTicks) = false) :
    timestampOfTicks k = .error (.tickRange (toString k)) := by
  unfold timestampOfTicks checkedI64
  rw [if_neg (by simp [h])]

/-- A 64-bit tick count reads back as a timestamp exactly when it lies at or above the count of
the Unix epoch from the least one. -/
theorem timestampOfTicks_ok_iff {k : Int} (hk : fitsI64 k = true) :
    (∃ t, timestampOfTicks k = .ok t) ↔ minI64 + unixEpochTicks ≤ k := by
  rw [fitsI64_iff] at hk
  by_cases hrel : fitsI64 (k - unixEpochTicks) = true
  · have hlo : minI64 + unixEpochTicks ≤ k := by
      rw [fitsI64_iff] at hrel
      omega
    exact ⟨fun _ => hlo, fun _ => ⟨_, timestampOfTicks_of_fits hrel⟩⟩
  · have hlt : k < minI64 + unixEpochTicks := by
      rw [fitsI64_iff] at hrel
      unfold unixEpochTicks at hrel ⊢
      omega
    rw [timestampOfTicks_of_not_fits (by simpa using hrel)]
    exact ⟨fun ⟨_, h⟩ => (by cases h), fun h => absurd h (by omega)⟩

/-- A timestamp read back from a 64-bit tick count stores as that count again, unless the count
lies among the first `4775808` readable ones: their seconds in ticks fall below the range. -/
theorem ticks?_timestampOfTicks {k : Int} (hk : fitsI64 k = true) {t : Timestamp}
    (h : timestampOfTicks k = .ok t) :
    ((∃ n, t.ticks? = .ok n) ↔ minI64 + unixEpochTicks + 4775808 ≤ k) ∧
      ∀ n, t.ticks? = .ok n → n = k := by
  have hrel : fitsI64 (k - unixEpochTicks) = true := by
    by_contra hne
    rw [timestampOfTicks_of_not_fits (by simpa using hne)] at h
    cases h
  rw [timestampOfTicks_of_fits hrel] at h
  cases h
  have hsec : (Timestamp.ofNanos (100 * (k - unixEpochTicks))).seconds * ticksPerSecond =
      (k - unixEpochTicks) / 10000000 * 10000000 := by
    simp only [Timestamp.seconds, Timestamp.ofNanos, nanosPerSecond, ticksPerSecond]
    omega
  have hlin : (Timestamp.ofNanos (100 * (k - unixEpochTicks))).linearNanos / 100 =
      k - unixEpochTicks := by
    simp only [Timestamp.linearNanos, Timestamp.ofNanos, Bool.false_eq_true, if_false]
    omega
  rw [fitsI64_iff] at hk
  refine ⟨?_, fun n hn => ?_⟩
  · rw [Timestamp.ticks?_ok_iff, hsec, hlin, Int.sub_add_cancel, fitsI64_iff]
    simp only [minI64, maxI64, unixEpochTicks] at hk ⊢
    omega
  · obtain ⟨rfl, -⟩ := Timestamp.ticks?_eq_ok_iff.1 hn
    rw [hlin, Int.sub_add_cancel]

/-! ## Both ways -/

/-- Tick storage read back and stored again, for a 64-bit count `k`. It reads back as an
interval stored as `k` again, and an interval is stored exactly when its ticks toward zero fit.
It reads back as a timestamp exactly from `minI64 + unixEpochTicks` up; that timestamp is stored
as `k` again exactly from `4775808` counts further up, and never as another count. A timestamp
is stored exactly when its whole seconds in ticks and its tick count both fit. -/
theorem tick_storage_round_trip (k : Int) (hk : fitsI64 k = true) :
    (intervalOfTicks k).ticks? = .ok k ∧
      (∀ d : Interval, (∃ n, d.ticks? = .ok n) ↔ fitsI64 (d.nanos.tdiv 100) = true) ∧
      ((∃ t, timestampOfTicks k = .ok t) ↔ minI64 + unixEpochTicks ≤ k) ∧
      (∀ t, timestampOfTicks k = .ok t →
        ((∃ n, t.ticks? = .ok n) ↔ minI64 + unixEpochTicks + 4775808 ≤ k) ∧
          ∀ n, t.ticks? = .ok n → n = k) ∧
      ∀ t : Timestamp, (∃ n, t.ticks? = .ok n) ↔
        minI64 ≤ t.seconds * ticksPerSecond ∧
          fitsI64 (t.linearNanos / 100 + unixEpochTicks) = true :=
  ⟨ticks?_intervalOfTicks hk, Interval.ticks?_ok_iff, timestampOfTicks_ok_iff hk,
    fun _ h => ticks?_timestampOfTicks hk h, Timestamp.ticks?_ok_iff⟩

/-- The least readable tick count reads back as a timestamp that cannot be stored again. -/
theorem timestampOfTicks_least_not_stored :
    ∃ t, timestampOfTicks (minI64 + unixEpochTicks) = .ok t ∧ ¬ ∃ n, t.ticks? = .ok n := by
  obtain ⟨-, -, hread, hstore, -⟩ := tick_storage_round_trip (minI64 + unixEpochTicks) (by decide)
  obtain ⟨t, ht⟩ := hread.2 le_rfl
  refine ⟨t, ht, fun hn => ?_⟩
  have hlo := (hstore t ht).1.1 hn
  omega

end RecordMap
