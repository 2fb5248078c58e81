import RecordMap.Numeral.Integral
import Mathlib.Tactic.Ring

/-!
# Doubles through the float model

`FloatShape.ofBits` reads a double's sign, exponent and mantissa off its bit pattern. `Float`
computes in its logical model: an operation unpacks the bits into an `UnpackedFloat`, works
there and packs the result. Reading a bit pattern's fields in `Nat` arithmetic
(`FloatShape.ofBits_eq_ofFields`) relates the two readings: unpacking reads what `FloatShape.ofBits`
reads (`FloatShape.ofUnpacked_unpack`), and packing a value unpacking can give (`Canonical`) writes
back the shape it reads as (`FloatShape.ofBits_pack`). So a bit pattern read as a double keeps
its shape (`FloatShape.ofFloat_ofBits`), negation flips its sign (`FloatShape.ofFloat_neg`), and
the double nearest to a natural below `2 ^ 53` holds it exactly (`FloatShape.ofBits_nearestBits`).

From these, rounding a double to an integral double and converting that to 64 bits is the
rounding of the double, clamped to 64 bits (`saturateI64_roundEven`).
-/

namespace RecordMap.Numeral

open Float.Model (UnpackedFloat)
open Float.Model.UnpackedFloat (Sign unpack unpackSign unpackExponent unpackMantissa packComponents)

/-! ## The fields of a bit pattern -/

/-- The shape of the fields of a bit pattern: its sign, biased exponent and fraction. -/
def FloatShape.ofFields (negative : Bool) (biased fraction : Nat) : FloatShape :=
  if biased = 0x7FF then if fraction = 0 then .infinite negative else .nan
  else if biased = 0 then .finite negative fraction (-1074)
  else .finite negative (fraction + Nat.pow 2 52) ((biased : Int) - 1075)

theorem FloatShape.ofBits_eq_ofFields {b : UInt64} {s E M : Nat} (hE : E < 2 ^ 11)
    (hM : M < 2 ^ 52) (hb : b.toNat = s * 2 ^ 63 + E * 2 ^ 52 + M) :
    FloatShape.ofBits b = FloatShape.ofFields (s == 1) E M := by
  have hsign : (b >>> 63 == 1) = (s == 1) := by
    have htop : (b >>> 63).toNat = s := by
      rw [UInt64.toNat_shiftRight, hb, Nat.shiftRight_eq_div_pow,
        show (63 : UInt64).toNat % 64 = 63 from rfl]
      omega
    rw [Bool.eq_iff_iff, beq_iff_eq, beq_iff_eq, ← UInt64.toNat_inj, htop]
    rfl
  have hbiased : ((b >>> 52) &&& 0x7FF).toNat = E := by
    rw [UInt64.toNat_and, UInt64.toNat_shiftRight, hb, Nat.shiftRight_eq_div_pow,
      show (52 : UInt64).toNat % 64 = 52 from rfl, show (0x7FF : UInt64).toNat = 2 ^ 11 - 1 from rfl,
      Nat.and_two_pow_sub_one_eq_mod]
    omega
  have hfraction : (b &&& 0xFFFFFFFFFFFFF).toNat = M := by
    rw [UInt64.toNat_and, hb, show (0xFFFFFFFFFFFFF : UInt64).toNat = 2 ^ 52 - 1 from rfl,
      Nat.and_two_pow_sub_one_eq_mod]
    omega
  unfold FloatShape.ofBits
  simp only [hsign, hbiased, hfraction]
  rfl

theorem FloatShape.ofBits_eq_fields (b : UInt64) :
    FloatShape.ofBits b =
      FloatShape.ofFields (b.toNat / 2 ^ 63 == 1) (b.toNat / 2 ^ 52 % 2 ^ 11) (b.toNat % 2 ^ 52) :=
  FloatShape.ofBits_eq_ofFields (Nat.mod_lt _ (by decide)) (Nat.mod_lt _ (by decide)) (by omega)

theorem FloatShape.mant_lt_of_finite {x : Float} {neg : Bool} {m : Nat} {e : Int}
    (h : FloatShape.ofFloat x = .finite neg m e) : m < 2 ^ 53 := by
  unfold FloatShape.ofFloat at h
  rw [FloatShape.ofBits_eq_fields] at h
  unfold FloatShape.ofFields at h
  simp only [Nat.pow_eq] at h
  split_ifs at h <;> cases h <;> omega

/-! ## Unpacking -/

/-- The shape an unpacked double reads as; a zero is the mantissa 0 at the subnormal exponent. -/
def FloatShape.ofUnpacked : UnpackedFloat → FloatShape
  | .notANumber => .nan
  | .infinity s => .infinite (s == .negative)
  | .zero s => .finite (s == .negative) 0 (-1074)
  | .finite s m e _ => .finite (s == .negative) m e

/-- The shape of the negated double. -/
def FloatShape.neg : FloatShape → FloatShape
  | .nan => .nan
  | .infinite negative => .infinite (!negative)
  | .finite negative m e => .finite (!negative) m e

-- The fields are bit ranges of the pattern, so their values are read off by definition.
theorem toNat_unpackMantissa (b : BitVec 64) :
    (@unpackMantissa .binary64 b).toNat = b.toNat % 2 ^ 52 := by
  show (b.toNat >>> 0) % 2 ^ 52 = _
  rw [Nat.shiftRight_zero]

theorem toNat_unpackExponent (b : BitVec 64) :
    (@unpackExponent .binary64 b).toNat = b.toNat / 2 ^ 52 % 2 ^ 11 := by
  show (b.toNat >>> 52) % 2 ^ 11 = _
  rw [Nat.shiftRight_eq_div_pow]

theorem toNat_unpackSign (b : BitVec 64) :
    (@unpackSign .binary64 b).toNat = b.toNat / 2 ^ 63 := by
  show (b.toNat >>> 63) % 2 ^ 1 = _
  have := b.isLt
  rw [Nat.shiftRight_eq_div_pow]
  omega

theorem toNat_one_append (v : BitVec 52) : (1#1 ++ v).toNat = v.toNat + Nat.pow 2 52 := by
  rw [BitVec.toNat_append, ← Nat.shiftLeft_add_eq_or_of_lt v.isLt, Nat.shiftLeft_eq]
  simp only [BitVec.toNat_ofNat, Nat.pow_eq]
  omega

theorem ofBitVec_beq_negative (x : BitVec 1) :
    (Sign.ofBitVec x == .negative) = (x.toNat == 1) := by
  have : x = 0#1 ∨ x = 1#1 := by
    have := x.isLt
    rcases (by omega : x.toNat = 0 ∨ x.toNat = 1) with h | h
    · exact .inl (BitVec.eq_of_toNat_eq h)
    · exact .inr (BitVec.eq_of_toNat_eq h)
  rcases this with rfl | rfl <;> rfl

/-- Unpacking reads the shape `FloatShape.ofBits` reads. -/
theorem FloatShape.ofUnpacked_unpack (b : UInt64) :
    FloatShape.ofUnpacked (unpack .binary64 b.toBitVec) = FloatShape.ofBits b := by
  rw [FloatShape.ofBits_eq_fields]
  have hexp := toNat_unpackExponent b.toBitVec
  have hman := toNat_unpackMantissa b.toBitVec
  have hsign := toNat_unpackSign b.toBitVec
  simp only [UInt64.toNat_toBitVec] at hexp hman hsign
  have hinf : @unpackExponent .binary64 b.toBitVec = -1#11 ↔ b.toNat / 2 ^ 52 % 2 ^ 11 = 2047 := by
    rw [← BitVec.toNat_inj, hexp]
    rfl
  have hsub : @unpackExponent .binary64 b.toBitVec = 0#11 ↔ b.toNat / 2 ^ 52 % 2 ^ 11 = 0 := by
    rw [← BitVec.toNat_inj, hexp]
    rfl
  have hnil : @unpackMantissa .binary64 b.toBitVec = 0#52 ↔ b.toNat % 2 ^ 52 = 0 := by
    rw [← BitVec.toNat_inj, hman]
    rfl
  have hbias : ((Float.Model.Format.binary64.exponentBias : Nat) : Int) = 1023 := rfl
  unfold FloatShape.ofFields
  delta unpack
  dsimp only
  -- unpacking and the fields test the same exponent and mantissa, branch by branch
  by_cases h1 : b.toNat / 2 ^ 52 % 2 ^ 11 = 2047
  · rw [if_pos (hinf.2 h1), if_pos h1]
    by_cases h2 : b.toNat % 2 ^ 52 = 0
    · rw [if_pos (hnil.2 h2), if_pos h2]
      dsimp only [FloatShape.ofUnpacked]
      rw [ofBitVec_beq_negative, hsign]
    · rw [if_neg (mt hnil.1 h2), if_neg h2]
      rfl
  · rw [if_neg (mt hinf.1 h1), if_neg h1]
    by_cases h3 : b.toNat / 2 ^ 52 % 2 ^ 11 = 0
    · rw [if_pos (hsub.2 h3), if_pos h3]
      by_cases h4 : b.toNat % 2 ^ 52 = 0
      · rw [dif_pos (hnil.2 h4)]
        dsimp only [FloatShape.ofUnpacked]
        rw [ofBitVec_beq_negative, hsign, h4]
      · rw [dif_neg (mt hnil.1 h4)]
        dsimp only [FloatShape.ofUnpacked]
        rw [ofBitVec_beq_negative, hsign, hman, hexp, h3, hbias]
        rfl
    · rw [if_neg (mt hsub.1 h3), if_neg h3]
      dsimp only [FloatShape.ofUnpacked]
      rw [ofBitVec_beq_negative, hsign, toNat_one_append, hman, hexp, hbias]
      congr 1

/-- The unpacked doubles unpacking gives: a NaN, the infinities and zeros, and finite doubles with
a subnormal mantissa at the least exponent or a normal one at an exponent in range. -/
inductive Canonical : UnpackedFloat → Prop
  | notANumber : Canonical .notANumber
  | infinity (s : Sign) : Canonical (.infinity s)
  | zero (s : Sign) : Canonical (.zero s)
  | finite (s : Sign) (m : Nat) (e : Int) (h : 0 < m)
      (hm : m < 2 ^ 52 ∧ e = -1074 ∨ 2 ^ 52 ≤ m ∧ m < 2 ^ 53 ∧ -1074 ≤ e ∧ e ≤ 971) :
      Canonical (.finite s m e h)

theorem canonical_unpack (b : UInt64) : Canonical (unpack .binary64 b.toBitVec) := by
  have hexp := toNat_unpackExponent b.toBitVec
  have hE := (@unpackExponent .binary64 b.toBitVec).isLt
  have hM := (@unpackMantissa .binary64 b.toBitVec).isLt
  have hbias : ((Float.Model.Format.binary64.exponentBias : Nat) : Int) = 1023 := rfl
  delta unpack
  dsimp only
  -- branch by branch, with `rw` rather than a simplifier under the proof-carrying constructor
  by_cases hinf : @unpackExponent .binary64 b.toBitVec = -1#11
  · rw [if_pos hinf]
    by_cases hnil : @unpackMantissa .binary64 b.toBitVec = 0#52
    · rw [if_pos hnil]
      exact .infinity _
    · rw [if_neg hnil]
      exact .notANumber
  · rw [if_neg hinf]
    by_cases hsub : @unpackExponent .binary64 b.toBitVec = 0#11
    · rw [if_pos hsub]
      by_cases hzero : @unpackMantissa .binary64 b.toBitVec = 0#52
      · rw [dif_pos hzero]
        exact .zero _
      · -- subnormal: the least exponent
        rw [dif_neg hzero]
        refine .finite _ _ _ _ (.inl ⟨hM, ?_⟩)
        rw [hsub]
        rfl
    · -- normal: the implicit bit on top, a stored exponent neither 0 nor all ones
      rw [if_neg hsub]
      have h1 : (@unpackExponent .binary64 b.toBitVec).toNat ≠ 2047 := fun h =>
        hinf (BitVec.eq_of_toNat_eq (h.trans rfl))
      have h0 : (@unpackExponent .binary64 b.toBitVec).toNat ≠ 0 := fun h =>
        hsub (BitVec.eq_of_toNat_eq (h.trans rfl))
      refine .finite _ _ _ _ (.inr ⟨?_, ?_, ?_, ?_⟩)
      · rw [toNat_one_append]
        exact Nat.le_add_left _ _
      · rw [toNat_one_append]
        exact Nat.add_lt_of_lt_sub hM
      · rw [hbias]
        omega
      · rw [hbias]
        omega

theorem Canonical.neg {u : UnpackedFloat} (h : Canonical u) : Canonical u.neg := by
  cases h with
  | notANumber => exact .notANumber
  | infinity s => exact .infinity _
  | zero s => exact .zero _
  | finite s m e h hm => exact .finite _ m e h hm

/-! ## Packing -/

theorem toNat_packComponents (s : Sign) (E : BitVec 11) (M : BitVec 52) :
    (packComponents .binary64 s E M).toNat =
      s.toBitVec.toNat * 2 ^ 63 + E.toNat * 2 ^ 52 + M.toNat := by
  unfold packComponents
  rw [BitVec.toNat_append, BitVec.toNat_append, ← Nat.shiftLeft_add_eq_or_of_lt M.isLt,
    ← Nat.shiftLeft_add_eq_or_of_lt E.isLt, Nat.shiftLeft_eq, Nat.shiftLeft_eq]
  ring

theorem toBitVec_beq_one (s : Sign) : (s.toBitVec.toNat == 1) = (s == .negative) := by
  cases s <;> rfl

/-- Packing a value unpacking can give writes back the shape it reads as. -/
theorem FloatShape.ofBits_pack {u : UnpackedFloat} (h : Canonical u) :
    FloatShape.ofBits (UInt64.ofBitVec (UnpackedFloat.pack .binary64 u)) = FloatShape.ofUnpacked u := by
  cases h with
  | notANumber => rfl
  | infinity s => cases s <;> rfl
  | zero s => cases s <;> rfl
  | finite s m e h hm =>
    dsimp only [FloatShape.ofUnpacked]
    delta UnpackedFloat.pack
    dsimp only
    rcases hm with ⟨hm, rfl⟩ | ⟨hlo, hhi, helo, hehi⟩
    · -- subnormal: the mantissa's top bit is below the implicit one
      have hlog : m.log2 < 52 := (Nat.log2_lt (by omega)).2 hm
      rw [if_neg (by decide),
        if_neg (by rw [show Float.Model.Format.binary64.mantissaBits = 53 from rfl]; omega),
        FloatShape.ofBits_eq_ofFields (s := s.toBitVec.toNat) (E := 0) (M := m) (by decide) hm
          (by rw [UInt64.toNat_ofBitVec, toNat_packComponents]
              simp only [BitVec.toNat_ofNat]
              omega)]
      unfold FloatShape.ofFields
      rw [if_neg (by decide), if_pos rfl, toBitVec_beq_one]
    · -- normal: the exponent's biased value is the stored field
      have hlog : m.log2 = 52 := by
        have h1 : 52 ≤ m.log2 := (Nat.le_log2 (by omega)).2 hlo
        have h2 : m.log2 < 53 := (Nat.log2_lt (by omega)).2 hhi
        omega
      have hbias : (e + Float.Model.Format.binary64.exponentBias +
          Float.Model.Format.binary64.mantissaBitsWithoutImplicit).toNat = (e + 1075).toNat := by
        show (e + (1023 : Nat) + (52 : Nat)).toNat = _
        omega
      rw [hbias, if_neg (by show ¬2 ^ 11 ≤ (e + 1075).toNat + 1; omega),
        if_pos (by rw [show Float.Model.Format.binary64.mantissaBits = 53 from rfl, hlog]),
        FloatShape.ofBits_eq_ofFields (s := s.toBitVec.toNat) (E := (e + 1075).toNat)
          (M := m - 2 ^ 52) (by omega) (by omega)
          (by rw [UInt64.toNat_ofBitVec, toNat_packComponents]
              simp only [BitVec.toNat_ofNat]
              omega)]
      unfold FloatShape.ofFields
      rw [if_neg (by omega), if_neg (by omega), toBitVec_beq_one]
      congr 1
      · simp only [Nat.pow_eq]
        omega
      · omega

theorem FloatShape.ofUnpacked_neg (u : UnpackedFloat) :
    FloatShape.ofUnpacked u.neg = (FloatShape.ofUnpacked u).neg := by
  cases u with
  | notANumber => rfl
  | infinity s => cases s <;> rfl
  | zero s => cases s <;> rfl
  | finite s m e h => cases s <;> rfl

theorem FloatShape.ofFloat_ofBits (b : UInt64) :
    FloatShape.ofFloat (Float.ofBits b) = FloatShape.ofBits b := by
  show FloatShape.ofBits (UInt64.ofBitVec (UnpackedFloat.pack .binary64 (unpack .binary64 b.toBitVec))) = _
  rw [FloatShape.ofBits_pack (canonical_unpack b), FloatShape.ofUnpacked_unpack]

theorem FloatShape.ofFloat_neg (x : Float) : FloatShape.ofFloat (-x) = (FloatShape.ofFloat x).neg := by
  show FloatShape.ofBits (UInt64.ofBitVec
    (UnpackedFloat.pack .binary64 (unpack .binary64 x.toBits.toBitVec).neg)) = _
  rw [FloatShape.ofBits_pack (canonical_unpack _).neg, FloatShape.ofUnpacked_neg,
    FloatShape.ofUnpacked_unpack]
  rfl

/-! ## Whole numbers as doubles -/

theorem roundHalfEven_one (n : Nat) : roundHalfEven n 1 = n := by
  simp [roundHalfEven, Nat.mod_one]

theorem binaryExponent_one {n : Nat} (h : 0 < n) : binaryExponent n 1 = n.log2 := by
  have hlo : 2 ^ n.log2 ≤ n := Nat.log2_self_le (by omega)
  unfold binaryExponent
  simp only [show Nat.log2 1 = 0 from rfl, Nat.cast_zero, Int.sub_zero, Nat.pow_eq]
  rw [if_neg (by simp only [show (-(n.log2 : Int)).toNat = 0 by omega, Int.toNat_natCast]; omega)]

theorem FloatShape.ofBits_nearestBits {n : Nat} (h0 : 0 < n) (hn : n < 2 ^ 53) :
    FloatShape.ofBits (nearestBits n 1) = .finite false (n * 2 ^ (52 - n.log2)) (n.log2 - 52) := by
  unfold nearestBits
  rw [if_neg (by omega), binaryExponent_one h0]
  dsimp only
  have hlog : n.log2 < 53 := (Nat.log2_lt (by omega)).2 hn
  have hlo : 2 ^ n.log2 ≤ n := Nat.log2_self_le (by omega)
  have hhi : n < 2 ^ (n.log2 + 1) := Nat.lt_log2_self
  -- the mantissa is `n` shifted up to 53 bits, exactly
  have hm_lo : 2 ^ 52 ≤ n * 2 ^ (52 - n.log2) :=
    calc 2 ^ 52 = 2 ^ n.log2 * 2 ^ (52 - n.log2) := by rw [← Nat.pow_add]; congr 1; omega
      _ ≤ n * 2 ^ (52 - n.log2) := Nat.mul_le_mul_right _ hlo
  have hm_hi : n * 2 ^ (52 - n.log2) < 2 ^ 53 :=
    calc n * 2 ^ (52 - n.log2) < 2 ^ (n.log2 + 1) * 2 ^ (52 - n.log2) :=
          Nat.mul_lt_mul_of_pos_right hhi (Nat.two_pow_pos _)
      _ = 2 ^ 53 := by rw [← Nat.pow_add]; congr 1; omega
  have he : max ((n.log2 : Int) - 52) (-1074) = (n.log2 : Int) - 52 := by omega
  simp only [he, show (-((n.log2 : Int) - 52)).toNat = 52 - n.log2 by omega,
    show ((n.log2 : Int) - 52).toNat = 0 by omega, Nat.pow_eq, Nat.pow_zero, Nat.one_mul,
    roundHalfEven_one]
  rw [if_neg (show ¬n * 2 ^ (52 - n.log2) = 2 ^ 53 by omega)]
  rw [if_neg (show ¬n * 2 ^ (52 - n.log2) < 2 ^ 52 by omega),
    if_neg (show ¬(n.log2 : Int) - 52 + 1075 ≥ 2047 by omega),
    FloatShape.ofBits_eq_ofFields (s := 0) (E := n.log2 + 1023) (M := n * 2 ^ (52 - n.log2) - 2 ^ 52)
      (by omega) (by omega) (by rw [Nat.toUInt64_eq, UInt64.toNat_ofNat']; omega)]
  simp only [FloatShape.ofFields]
  rw [if_neg (by omega), if_neg (by omega)]
  simp only [FloatShape.finite.injEq, Nat.pow_eq]
  exact ⟨rfl, by omega, by omega⟩

theorem clampI64_of_fits {i : Int} (h : minI64 ≤ i ∧ i ≤ maxI64) : clampI64 i = i := by
  unfold clampI64
  omega

theorem roundHalfEven_le (n d : Nat) : roundHalfEven n d ≤ n / d + 1 := by
  unfold roundHalfEven
  dsimp only
  split <;> omega

theorem decimalLength_le {n : Nat} (h : n < 10 ^ 16) : decimalLength n ≤ 16 :=
  (Nat.length_toDigits_le_iff (by decide) (by decide)).2 h

/-- The double nearest to `± n`, for `n` below `2 ^ 53`, converts to 64 bits as `± n`. -/
theorem saturateI64_floatOfDecimal (neg : Bool) {n : Nat} (hn : n < 2 ^ 53) :
    saturateI64 (floatOfDecimal neg n 0) = signed neg n := by
  unfold floatOfDecimal
  by_cases h0 : n = 0
  · subst h0
    have hzero : FloatShape.ofFloat 0.0 = .finite false 0 (-1074) := rfl
    rw [if_pos rfl]
    unfold saturateI64
    cases neg with
    | false =>
      simp only [Bool.false_eq_true, if_false, hzero, Nat.zero_mul, Nat.zero_div]
      rfl
    | true =>
      simp only [if_true, FloatShape.ofFloat_neg, hzero, FloatShape.neg, Nat.zero_mul, Nat.zero_div]
      rfl
  · have hlen := decimalLength_le (n := n) (by omega)
    rw [if_neg h0, if_neg (show ¬(decimalLength n : Int) + 0 > 310 by omega),
      if_neg (show ¬(decimalLength n : Int) + 0 < -330 by omega)]
    simp only [Nat.pow_eq, Int.toNat_zero, Int.neg_zero, Nat.pow_zero, Nat.mul_one]
    -- the double holds `n` shifted up to a 53-bit mantissa
    have hshape := FloatShape.ofBits_nearestBits (Nat.pos_of_ne_zero h0) hn
    have hlog : n.log2 < 53 := (Nat.log2_lt h0).2 hn
    have hvalue : n * 2 ^ (52 - n.log2) * 2 ^ ((n.log2 : Int) - 52).toNat /
        2 ^ (-((n.log2 : Int) - 52)).toNat = n := by
      rw [show ((n.log2 : Int) - 52).toNat = 0 by omega,
        show (-((n.log2 : Int) - 52)).toNat = 52 - n.log2 by omega, Nat.pow_zero, Nat.mul_one,
        Nat.mul_div_cancel _ (Nat.two_pow_pos _)]
    unfold saturateI64 nearestDouble
    cases neg with
    | false =>
      simp only [Bool.false_eq_true, if_false, FloatShape.ofFloat_ofBits, hshape, Nat.pow_eq, hvalue]
      exact clampI64_of_fits (by unfold signed minI64 maxI64; simp only [Bool.false_eq_true, if_false]; omega)
    | true =>
      simp only [if_true, FloatShape.ofFloat_neg, FloatShape.ofFloat_ofBits, hshape,
        FloatShape.neg, Bool.not_false, Nat.pow_eq, hvalue]
      exact clampI64_of_fits (by unfold signed minI64 maxI64; simp only [if_true]; omega)

/-- Rounding a finite double to an integral double and converting that to 64 bits is the rounding
of the double, clamped; a NaN or an infinity is converted as it is. -/
theorem saturateI64_roundEven (x : Float) :
    saturateI64 (roundEven x) = match roundEven? x with
      | some r => clampI64 r
      | none => saturateI64 x := by
  unfold roundEven roundEven?
  cases hx : FloatShape.ofFloat x with
  | nan => rfl
  | infinite neg => rfl
  | finite neg m e =>
    dsimp only
    simp only [Nat.pow_eq]
    by_cases he : e ≥ 0
    · -- an integral double is its own rounding
      rw [if_pos he]
      unfold saturateI64
      rw [hx]
      simp only [Nat.pow_eq, show (-e).toNat = 0 by omega, Nat.pow_zero, Nat.div_one,
        roundHalfEven_one]
    · rw [if_neg he, show e.toNat = 0 by omega, Nat.pow_zero, Nat.mul_one]
      -- the rounding is at most half the mantissa, plus one, so below `2 ^ 53`
      have hm := FloatShape.mant_lt_of_finite hx
      have hd : 2 ≤ 2 ^ (-e).toNat :=
        calc 2 = 2 ^ 1 := rfl
          _ ≤ 2 ^ (-e).toNat := Nat.pow_le_pow_right (by decide) (by omega)
      have hr : roundHalfEven m (2 ^ (-e).toNat) < 2 ^ 53 := by
        have := roundHalfEven_le m (2 ^ (-e).toNat)
        have := Nat.div_le_div_left hd (by decide : 0 < 2) (a := m)
        omega
      rw [saturateI64_floatOfDecimal neg hr, clampI64_of_fits]
      unfold signed minI64 maxI64
      split <;> omega

end RecordMap.Numeral
