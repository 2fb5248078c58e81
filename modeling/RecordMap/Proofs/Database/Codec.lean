import RecordMap.Database.Codec
import RecordMap.Schema.Field
import RecordMap.Proofs.Time.Exchange
import RecordMap.Proofs.Text.Utf8
import RecordMap.Proofs.Uuid

/-!
# Values stored and read back

Every value that a field of a supported kind can hold, once bound for the engine, reads back
through the field's column type and the field's acceptance as the value itself, up to the
precision of tick storage (`readColumn_bindValue`). A NaN is stored as null and comes back as
what the field takes for null (`readInto_nan`). Ticks are hundreds of nanoseconds: a
timestamp stored as ticks comes back rounded down to a whole tick, a leap second counted as the
second after it (`Timestamp.atTick`); an instant comes back at UTC; an interval comes back
rounded toward zero (`Interval.atTick`). A timestamp stored as text comes back whole.
-/

namespace RecordMap

open RecordMap.Time RecordMap.Numeral
open RecordMap.Sql (Datum)

/-! ## Ticks -/

/-- The timestamp at the whole tick at or before it, a leap second counted on top of the
second before it. -/
def Time.Timestamp.atTick (t : Timestamp) : Timestamp :=
  Timestamp.ofNanos (100 * (t.linearNanos / 100))

/-- The interval cut to whole ticks toward zero. -/
def Time.Interval.atTick (d : Interval) : Interval := ⟨d.nanos.tdiv 100 * 100⟩

theorem checkedI64_eq_some_iff {i n : Int} : checkedI64 i = some n ↔ i = n ∧ fitsI64 i = true := by
  unfold checkedI64
  split <;> simp_all

theorem fitsI64_iff {i : Int} : fitsI64 i = true ↔ minI64 ≤ i ∧ i ≤ maxI64 := by
  simp only [fitsI64, IntWidth.admits, decide_eq_true_eq]
  exact Iff.rfl

theorem match_eq_ok_iff {o : Option Int} {e : TypeFault} {n : Int} :
    (match o with
      | some n => Except.ok n
      | none => Except.error e : Except TypeFault Int) = .ok n ↔ o = some n := by
  cases o <;> simp

theorem Time.Timestamp.linearNanos_div (t : Timestamp) :
    t.linearNanos / 100 = t.seconds * ticksPerSecond +
      ((t.subsecond + if t.leap then 1000000000 else 0) / 100 : Nat) := by
  simp only [Timestamp.linearNanos, Timestamp.seconds, Timestamp.subsecond, ticksPerSecond,
    nanosPerSecond]
  cases t.leap <;> simp only [if_true, Bool.false_eq_true, if_false, Nat.add_zero] <;> omega

/-- The ticks of a timestamp, when it has them, are its tick count from 0001-01-01; its whole
seconds in ticks are checked against the range on the way. -/
theorem Time.Timestamp.ticks?_eq_ok_iff {t : Timestamp} {n : Int} :
    t.ticks? = .ok n ↔
      n = t.linearNanos / 100 + unixEpochTicks ∧ minI64 ≤ t.seconds * ticksPerSecond ∧
        fitsI64 n = true := by
  have hsplit := t.linearNanos_div
  have hsec : t.seconds * ticksPerSecond ≤ t.linearNanos / 100 := by omega
  unfold Timestamp.ticks?
  dsimp only
  refine match_eq_ok_iff.trans ?_
  simp only [Option.bind_eq_bind, Option.bind_eq_some_iff, checkedI64_eq_some_iff, and_assoc,
    exists_eq_left', fitsI64_iff, minI64, maxI64, unixEpochTicks]
  -- the partial counts lie between the seconds in ticks and the tick count less the epoch's
  constructor <;> intro h <;> omega

theorem Time.Timestamp.ticks?_eq_ok {t : Timestamp} {n : Int} (h : t.ticks? = .ok n) :
    n = t.linearNanos / 100 + unixEpochTicks ∧ fitsI64 (t.linearNanos / 100) = true := by
  obtain ⟨rfl, hlo, hfit⟩ := Timestamp.ticks?_eq_ok_iff.1 h
  have hsec : t.seconds * ticksPerSecond ≤ t.linearNanos / 100 := by
    have := t.linearNanos_div
    omega
  refine ⟨rfl, ?_⟩
  rw [fitsI64_iff] at hfit ⊢
  unfold unixEpochTicks at hfit
  omega

theorem inRange_of_fits {b : Int} (h : fitsI64 b = true) :
    (Timestamp.ofNanos (100 * b)).inRange = true := by
  rw [fitsI64_iff] at h
  simp only [minI64, maxI64] at h
  simp only [Timestamp.inRange, Timestamp.day, Timestamp.ofNanos, minDay_eq, maxDay_eq,
    nanosPerDay, nanosPerSecond, decide_eq_true_eq]
  omega

theorem timestampOfTicks_of_fits {k : Int} (h : fitsI64 (k - unixEpochTicks) = true) :
    timestampOfTicks k = .ok (Timestamp.ofNanos (100 * (k - unixEpochTicks))) := by
  have hnanos : (k - unixEpochTicks) / ticksPerSecond * nanosPerSecond +
      (k - unixEpochTicks) % ticksPerSecond * 100 = 100 * (k - unixEpochTicks) := by
    unfold ticksPerSecond nanosPerSecond
    omega
  unfold timestampOfTicks
  rw [show checkedI64 (k - unixEpochTicks) = some (k - unixEpochTicks) from
    checkedI64_eq_some_iff.2 ⟨rfl, h⟩]
  dsimp only
  rw [hnanos, if_pos (inRange_of_fits h)]

theorem timestampOfTicks_of_ticks? {t : Timestamp} {n : Int} (h : t.ticks? = .ok n) :
    timestampOfTicks n = .ok t.atTick := by
  obtain ⟨rfl, hfit⟩ := Timestamp.ticks?_eq_ok h
  have hrel : fitsI64 (t.linearNanos / 100 + unixEpochTicks - unixEpochTicks) = true := by
    rwa [Int.add_sub_cancel]
  rw [timestampOfTicks_of_fits hrel, Int.add_sub_cancel]
  rfl

theorem tdiv_second_add_tdiv_rest (x : Int) :
    x.tdiv 1000000000 * 10000000 + (x.tmod 1000000000).tdiv 100 = x.tdiv 100 := by
  rcases Int.le_total 0 x with hx | hx
  · rw [Int.tdiv_eq_ediv_of_nonneg hx, Int.tdiv_eq_ediv_of_nonneg hx,
      Int.tmod_eq_emod_of_nonneg hx, Int.tdiv_eq_ediv_of_nonneg (Int.emod_nonneg _ (by decide))]
    omega
  · obtain ⟨y, rfl⟩ : ∃ y, x = -y := ⟨-x, by omega⟩
    have hy : 0 ≤ y := by omega
    rw [Int.neg_tdiv, Int.neg_tdiv, Int.neg_tmod, Int.neg_tdiv, Int.tdiv_eq_ediv_of_nonneg hy,
      Int.tdiv_eq_ediv_of_nonneg hy, Int.tmod_eq_emod_of_nonneg hy,
      Int.tdiv_eq_ediv_of_nonneg (Int.emod_nonneg _ (by decide))]
    omega

theorem tdiv_second_between (x : Int) :
    0 ≤ x.tdiv 1000000000 * 10000000 ∧ x.tdiv 1000000000 * 10000000 ≤ x.tdiv 100 ∨
      x.tdiv 100 ≤ x.tdiv 1000000000 * 10000000 ∧ x.tdiv 1000000000 * 10000000 ≤ 0 := by
  rcases Int.le_total 0 x with hx | hx
  · rw [Int.tdiv_eq_ediv_of_nonneg hx, Int.tdiv_eq_ediv_of_nonneg hx]
    omega
  · obtain ⟨y, rfl⟩ : ∃ y, x = -y := ⟨-x, by omega⟩
    have hy : 0 ≤ y := by omega
    rw [Int.neg_tdiv, Int.neg_tdiv, Int.tdiv_eq_ediv_of_nonneg hy, Int.tdiv_eq_ediv_of_nonneg hy]
    omega

theorem Time.Interval.ticks?_eq_ok_iff {d : Interval} {n : Int} :
    d.ticks? = .ok n ↔ n = d.nanos.tdiv 100 ∧ fitsI64 n = true := by
  have hsum := tdiv_second_add_tdiv_rest d.nanos
  have hmid := tdiv_second_between d.nanos
  unfold Interval.ticks?
  dsimp only
  refine match_eq_ok_iff.trans ?_
  simp only [Option.bind_eq_bind, Option.bind_eq_some_iff, checkedI64_eq_some_iff, and_assoc,
    exists_eq_left', fitsI64_iff, minI64, maxI64, Interval.truncSeconds, Interval.truncSubsecond,
    ticksPerSecond, nanosPerSecond]
  -- the product fits whenever the sum does, since it lies between zero and the sum
  constructor <;> intro h <;> omega

theorem intervalOfTicks_of_ticks? {d : Interval} {n : Int} (h : d.ticks? = .ok n) :
    intervalOfTicks n = d.atTick := by
  rw [(Interval.ticks?_eq_ok_iff.1 h).1]
  rfl

/-! ## Texts -/

theorem parseStoredTimestamp_exchangeText {t : Timestamp} (ht : t.Valid) :
    parseStoredTimestamp t.exchangeText = .ok t := by
  have hnb : ∀ c ∈ t.exchangeText.toList, Text.isBlank c = false := isoText_not_blank t.fields
  unfold parseStoredTimestamp
  simp only [trimBlank_of_forall hnb, parseStored_exchangeText ht]

theorem uuidOfText_hyphenated {u : Uuid} (h : u.value < 2 ^ 128) :
    Value.uuidOfText u.hyphenated = .ok u := by
  simp only [Value.uuidOfText, Uuid.parse_hyphenated h]

/-! ## Values a field holds -/

/-- The values a field of a kind holds: those of the kind's own type, integers within the
field's width, doubles (single-precision ones, or NaN, for a 32-bit field), timestamps a
calendar holds, identifiers of 128 bits and the ordinals of the enumeration. Decimals and inert
fields hold nothing here. -/
inductive FieldKind.Holds : FieldKind → Value → Prop where
  | bool (b : Bool) : Holds .bool (.bool b)
  | int {t : DataType} {i : Int} : t.isInteger = true → t.width.admits i = true →
      Holds (.int t) (.int i)
  | float32 {x : Float} : (isNaN x = false → narrowToSingle x = x) → Holds .float32 (.float x)
  | float64 (x : Float) : Holds .float64 (.float x)
  | string (s : String) : Holds .string (.text s)
  | blob (b : List UInt8) : Holds .blob (.blob b)
  | duration (d : Interval) : Holds .duration (.interval d)
  | datetime {t : Timestamp} : t.Valid → Holds .datetime (.timestamp t)
  | datetimeTz (z : OffsetTimestamp) : Holds .datetimeTz (.timestampTz z)
  | uuid {u : Uuid} : u.value < 2 ^ 128 → Holds .uuid (.uuid u)
  | level {i : Int} : i ∈ levelOrdinals → Holds .level (.int i)

/-- The values a field holds: those of its kind, and null when it is optional. -/
def FieldType.Holds (f : FieldType) (v : Value) : Prop :=
  (f.optional = true ∧ v = .null) ∨ f.kind.Holds v

/-- A value as it comes back from storage: timestamps, instants and intervals at the precision
of ticks, an instant at UTC, a timestamp stored as text whole. -/
def Value.normalize (ticks : Bool) : Value → Value
  | .timestamp t => .timestamp (if ticks then t.atTick else t)
  | .timestampTz z => .timestampTz (OffsetTimestamp.ofUtc z.utc.atTick)
  | .interval d => .interval d.atTick
  | v => v

/-- A value as a field gets it back from storage: as `Value.normalize` has it, except that a
NaN is stored as null and so comes back as null in an optional field and as zero in another,
narrowed to single precision in a 32-bit field. -/
def FieldType.normalize (f : FieldType) (ticks : Bool) : Value → Value
  | .float x =>
    if isNaN x then
      if f.optional then .null
      else .float (if f.kind = .float32 then narrowToSingle 0.0 else 0.0)
    else .float x
  | v => v.normalize ticks

/-! ## One value -/

section ReadBack

variable {ticks : Bool} {d : Datum}

/-- Reading a stored value of a kind, then storing it into a field of that kind. -/
abbrev readInto (f : FieldType) (d : Datum) : Except TypeFault Value :=
  readColumn d f.dataType >>= f.accept

theorem accept_of_not_null {f : FieldType} {v : Value} (hv : v.isNull = false) :
    f.accept v = f.kind.accept v := by
  simp only [FieldType.accept, hv, Bool.and_false, Bool.false_eq_true, if_false]

theorem readInto_eq {f : FieldType} {v : Value} (hread : readColumn d f.dataType = .ok v)
    (hv : v.isNull = false) : readInto f d = f.kind.accept v := by
  simp only [readInto, hread, bind, Except.bind, accept_of_not_null hv]

theorem map_integer_eq_ok {c : Except TypeFault Int} (h : c.map Datum.integer = .ok d) :
    ∃ n, c = .ok n ∧ d = .integer n := by
  cases c with
  | error e => cases h
  | ok n =>
    cases h
    exact ⟨n, rfl, rfl⟩

theorem readInto_nan {opt : Bool} {k : FieldKind} (hk : k = .float32 ∨ k = .float64) {x : Float}
    (hnan : isNaN x = true) (hd : bindValue ticks (.float x) = .ok d) :
    readInto ⟨k, opt⟩ d = .ok (FieldType.normalize ⟨k, opt⟩ ticks (.float x)) := by
  simp only [bindValue, Datum.ofReal, hnan, if_true, Except.ok.injEq] at hd
  subst hd
  simp only [FieldType.normalize, hnan, if_true]
  rcases hk with rfl | rfl <;> cases opt <;> rfl

/-- A value a field holds reads back from what it was bound to as itself, up to the precision
of ticks and a NaN's storage as null. -/
theorem readColumn_bindValue {f : FieldType} {v : Value} (hv : f.Holds v)
    (hd : bindValue ticks v = .ok d) : readInto f d = .ok (f.normalize ticks v) := by
  obtain ⟨k, opt⟩ := f
  rcases hv with ⟨hopt, rfl⟩ | hv
  · -- null binds to null and reads back as null in an optional field
    cases hd
    dsimp only at hopt
    subst hopt
    rfl
  · cases hv with
    | bool b =>
      cases hd
      rw [readInto_eq (v := .bool b) (by cases b <;> rfl) rfl]
      rfl
    | @int t i ht hw =>
      cases hd
      have hread : readColumn (.integer i) t = .ok (.int i) := by
        cases t <;> first | rfl | simp [DataType.isInteger] at ht
      rw [readInto_eq (f := ⟨.int t, opt⟩) hread rfl]
      simp only [FieldKind.accept, hw, if_true]
      rfl
    | @float32 x hsingle =>
      cases hnan : isNaN x with
      | true => exact readInto_nan (.inl rfl) hnan hd
      | false =>
        simp only [bindValue, Datum.ofReal, hnan, Bool.false_eq_true, if_false] at hd
        cases hd
        rw [readInto_eq (v := .float x) rfl rfl]
        simp only [FieldKind.accept, FieldKind.acceptDouble, Except.map, hsingle hnan,
          FieldType.normalize, hnan, Bool.false_eq_true, if_false]
    | float64 x =>
      cases hnan : isNaN x with
      | true => exact readInto_nan (.inr rfl) hnan hd
      | false =>
        simp only [bindValue, Datum.ofReal, hnan, Bool.false_eq_true, if_false] at hd
        cases hd
        rw [readInto_eq (v := .float x) rfl rfl]
        simp only [FieldType.normalize, hnan, Bool.false_eq_true, if_false]
        rfl
    | string s =>
      cases hd
      rw [readInto_eq (v := .text s) (by simp only [readColumn, FieldType.dataType,
        FieldKind.dataType, Datum.ofString, Sql.Datum.readText, Sql.textOf_bytesOf]) rfl]
      rfl
    | blob b =>
      cases hd
      rw [readInto_eq (v := .blob b) rfl rfl]
      rfl
    | duration i =>
      obtain ⟨n, hn, rfl⟩ := map_integer_eq_ok hd
      rw [readInto_eq (v := .interval (intervalOfTicks n)) rfl rfl, intervalOfTicks_of_ticks? hn]
      rfl
    | @datetime t ht =>
      cases ticks with
      | true =>
        obtain ⟨n, hn, rfl⟩ := map_integer_eq_ok hd
        have hread : readColumn (.integer n) .dateTime = .ok (.timestamp t.atTick) := by
          simp only [readColumn, Sql.Datum.readInt, timestampOfTicks_of_ticks? hn, Except.map]
        rw [readInto_eq (f := ⟨.datetime, opt⟩) hread rfl]
        rfl
      | false =>
        simp only [bindValue, Bool.false_eq_true, if_false, Except.ok.injEq] at hd
        subst hd
        have hread : readColumn (Datum.ofString t.exchangeText) .dateTime = .ok (.timestamp t) := by
          simp only [readColumn, Datum.ofString, Sql.textOf_bytesOf,
            parseStoredTimestamp_exchangeText ht, Except.map]
        rw [readInto_eq (f := ⟨.datetime, opt⟩) hread rfl]
        rfl
    | datetimeTz z =>
      obtain ⟨n, hn, rfl⟩ := map_integer_eq_ok hd
      have hread : readColumn (.integer n) .dateTimeOffset =
          .ok (.timestampTz (OffsetTimestamp.ofUtc z.utc.atTick)) := by
        simp only [readColumn, Sql.Datum.readInt, timestampOfTicks_of_ticks? hn, Except.map]
      rw [readInto_eq (f := ⟨.datetimeTz, opt⟩) hread rfl]
      rfl
    | @uuid u hu =>
      simp only [bindValue, Except.ok.injEq] at hd
      subst hd
      have hread : readColumn (Datum.ofString u.hyphenated) .uuid = .ok (.uuid u) := by
        simp only [readColumn, Datum.ofString, Sql.Datum.readText, Sql.textOf_bytesOf,
          uuidOfText_hyphenated hu, Except.map]
      rw [readInto_eq (f := ⟨.uuid, opt⟩) hread rfl]
      rfl
    | @level i hl =>
      cases hd
      have hc : levelOrdinals.contains i = true := by simpa using hl
      rw [readInto_eq (v := .int i) rfl rfl]
      simp only [FieldKind.accept, hc, if_true]
      rfl

end ReadBack

end RecordMap
