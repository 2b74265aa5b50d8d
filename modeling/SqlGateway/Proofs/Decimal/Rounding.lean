import SqlGateway.Proofs.Decimal.Distinct

/-!
# Rounding and packing of doubles

What the arithmetic of doubles does to magnitudes.  A result is rounded to 53
binary digits, which raises its leading exponent by one at most, and is packed into
the bits of a double, where an exponent beyond the greatest becomes an infinity.

    roundWithAccuracy s m e  = 0  or  m' · 2 ^ e'   with leading exponent of m · 2 ^ e, or one more
    unpack (pack (m · 2 ^ e)) = m · 2 ^ e            for a mantissa of 53 digits and -1074 ≤ e ≤ 971
-/

namespace SqlGateway.Decimal

open Float.Model (Format UnpackedFloat totalExponent)
open Float.Model.UnpackedFloat

/-! ## Leading exponents -/

theorem log2_div_two_pow {m k : Nat} (h : m / 2 ^ k ≠ 0) : (m / 2 ^ k).log2 + k = m.log2 := by
  have hm : m ≠ 0 := by
    rintro rfl
    simp at h
  have hlow := Nat.log2_self_le h
  have hhigh := Nat.lt_log2_self (n := m / 2 ^ k)
  symm
  rw [Nat.log2_eq_iff hm, pow_add,
    show (m / 2 ^ k).log2 + k + 1 = (m / 2 ^ k).log2 + 1 + k by omega, pow_add]
  exact ⟨(Nat.le_div_iff_mul_le (by positivity)).1 hlow,
    (Nat.div_lt_iff_lt_mul (by positivity)).1 hhigh⟩

theorem log2_shiftLeft {m : Nat} (hm : m ≠ 0) (k : Nat) : (m <<< k).log2 = m.log2 + k := by
  have hdiv : m <<< k / 2 ^ k = m := by
    rw [Nat.shiftLeft_eq, Nat.mul_div_cancel _ (by positivity)]
  rw [← log2_div_two_pow (hdiv.trans_ne hm), hdiv]

theorem div_two_pow_ne_zero {m k : Nat} (hm : m ≠ 0) (hk : k ≤ m.log2) : m / 2 ^ k ≠ 0 := by
  have hpow : 2 ^ k ≤ m := (Nat.pow_le_pow_right (by decide) hk).trans (Nat.log2_self_le hm)
  exact (Nat.div_pos hpow (by positivity)).ne'

/-- Digits that are shifted out do not change the leading exponent. -/
theorem totalExponent_div {m k : Nat} (h : m / 2 ^ k ≠ 0) (e : Int) :
    totalExponent (m / 2 ^ k) (e + k) = totalExponent m e := by
  have hlog := log2_div_two_pow h
  unfold totalExponent
  omega

theorem log2_le_succ {r m : Nat} (h : r ≤ m + 1) : r.log2 ≤ m.log2 + 1 := by
  rcases Nat.eq_zero_or_pos r with rfl | hr
  · simp
  · have hlt : r < 2 ^ (m.log2 + 2) := by
      have hself := Nat.lt_log2_self (n := m)
      rw [pow_succ] at hself ⊢
      rw [pow_succ]
      omega
    have := (Nat.log2_lt (by omega)).2 hlt
    omega

/-! ## Rounding -/

theorem mantissa_shiftRight (em : ExtendedMantissa) (k : Nat) :
    (em >>> k).mantissa = em.mantissa / 2 ^ k := by
  induction k with
  | zero => simp [HShiftRight.hShiftRight, Nat.repeat]
  | succ k ih =>
    show ((em >>> k).mantissa / 2) = _
    rw [ih, Nat.div_div_eq_div_mul, pow_succ]

theorem roundedMantissa_bounds (em : ExtendedMantissa) :
    em.mantissa ≤ em.roundedMantissa ∧ em.roundedMantissa ≤ em.mantissa + 1 := by
  obtain ⟨m, roundBit, stickyBit⟩ := em
  cases roundBit <;> cases stickyBit <;>
    simp only [ExtendedMantissa.roundedMantissa, ExtendedMantissa.accuracy,
      Accuracy.roundToNearestEven] <;> omega

theorem mantissa_ofMantissaAndAccuracy (m : Nat) (a : Accuracy) :
    (ExtendedMantissa.ofMantissaAndAccuracy m a).mantissa = m := by
  cases a with
  | exact => rfl
  | inexact o => cases o <;> rfl

/-- The places that are shifted out to get to the exponent of 53 digits. -/
def surplus (m : Nat) (e : Int) : Nat :=
  (Format.binary64.targetExponent (totalExponent m e) - e).toNat

theorem surplus_eq (m : Nat) (e : Int) :
    surplus m e = (max (totalExponent m e - 53) (-1074) - e).toNat :=
  rfl

/-- The digits are shifted out, the rest is rounded, and a digit that this may have added is
shifted out. -/
theorem exists_roundWithAccuracy (s : Sign) (m : Nat) (e : Int) (a : Accuracy) :
    ∃ r k j, k = surplus m e ∧ j = surplus r (e + k) ∧ m / 2 ^ k ≤ r ∧ r ≤ m / 2 ^ k + 1 ∧
      roundWithAccuracy Format.binary64 s m e a = if h : r / 2 ^ j = 0 then .zero s
        else .finite s (r / 2 ^ j) (e + k + j) (Nat.pos_of_ne_zero h) := by
  have hshift : ∀ m e a, shiftToTargetExponent Format.binary64 m e a
      = (ExtendedMantissa.ofMantissaAndAccuracy m a >>> surplus m e, e + surplus m e) :=
    fun m e a => rfl
  have hmantissa : ∀ m e a, (ExtendedMantissa.ofMantissaAndAccuracy m a >>> surplus m e).mantissa
      = m / 2 ^ surplus m e := by
    intro m e a
    rw [mantissa_shiftRight, mantissa_ofMantissaAndAccuracy]
  obtain ⟨hlow, hhigh⟩ :=
    roundedMantissa_bounds (ExtendedMantissa.ofMantissaAndAccuracy m a >>> surplus m e)
  rw [hmantissa] at hlow hhigh
  refine ⟨_, _, _, rfl, rfl, hlow, hhigh, ?_⟩
  unfold roundWithAccuracy
  simp only [hshift, hmantissa]

/-- A number below `2 ^ t`; neither an infinity nor NaN. -/
inductive Below (t : Int) : UnpackedFloat → Prop
  | zero (s : Sign) : Below t (.zero s)
  | finite {s : Sign} {m : Nat} {e : Int} {hm : 0 < m} (h : totalExponent m e ≤ t) :
    Below t (.finite s m e hm)

instance (t : Int) : DecidablePred (Below t)
  | .zero s => .isTrue (.zero s)
  | .finite _ m e _ => decidable_of_iff (totalExponent m e ≤ t) ⟨Below.finite, fun | .finite h => h⟩
  | .infinity _ => .isFalse nofun
  | .notANumber => .isFalse nofun

theorem Below.mono {t t' : Int} {u : UnpackedFloat} (h : Below t u) (hle : t ≤ t') :
    Below t' u := by
  cases h with
  | zero s => exact .zero s
  | finite h => exact .finite (h.trans hle)

/-- Rounding raises the leading exponent by one at most, and that of the least doubles. -/
theorem below_roundWithAccuracy (s : Sign) (m : Nat) (e : Int) (a : Accuracy) :
    Below (max (totalExponent m e + 1) (-1073)) (roundWithAccuracy Format.binary64 s m e a) := by
  obtain ⟨r, k, j, hk, hj, -, hhigh, heq⟩ := exists_roundWithAccuracy s m e a
  rw [surplus_eq] at hk
  rw [heq]
  split
  · exact .zero s
  · next hr =>
    refine .finite ?_
    rw [totalExponent_div hr]
    -- Where no digit is left, rounding gives one at most, at the exponent of the rounded place.
    by_cases hm : m / 2 ^ k = 0
    · have hlog : r.log2 = 0 := by
        rw [hm] at hhigh
        interval_cases r <;> rfl
      unfold totalExponent at hk ⊢
      rcases Nat.eq_zero_or_pos k with rfl | hpos
      · have hzero : m.log2 = 0 := by
          rw [pow_zero, Nat.div_one] at hm
          rw [hm]
          rfl
        omega
      · omega
    · have hlog := log2_le_succ hhigh
      have htotal := totalExponent_div hm e
      unfold totalExponent at htotal ⊢
      omega

/-- Above the least doubles rounding leaves 53 digits and does not lower the leading exponent. -/
theorem normal_roundWithAccuracy (s : Sign) {m : Nat} (e : Int) (a : Accuracy)
    (hm : 52 ≤ m.log2) (ht : -1021 ≤ totalExponent m e) :
    ∃ m' e' h, roundWithAccuracy Format.binary64 s m e a = .finite s m' e' h ∧ m'.log2 = 52 ∧
      totalExponent m e ≤ totalExponent m' e' ∧ totalExponent m' e' ≤ totalExponent m e + 1 := by
  obtain ⟨r, k, j, hk, hj, hlow, hhigh, heq⟩ := exists_roundWithAccuracy s m e a
  rw [surplus_eq] at hk hj
  have hk' : (k : Int) = m.log2 - 52 := by
    unfold totalExponent at hk ht
    omega
  have hne : m / 2 ^ k ≠ 0 := by
    refine div_two_pow_ne_zero ?_ (by omega)
    rintro rfl
    simp at hm
  have htotal := totalExponent_div hne e
  have hlog := log2_div_two_pow hne
  have hupper := log2_le_succ hhigh
  have hpos : r ≠ 0 := by
    rintro rfl
    exact hne (Nat.le_zero.1 hlow)
  have hlower : (m / 2 ^ k).log2 ≤ r.log2 :=
    (Nat.le_log2 hpos).2 ((Nat.log2_self_le hne).trans hlow)
  -- Rounding up may have added a digit, and then the last one is zero and goes.
  have hr : r / 2 ^ j ≠ 0 := by
    refine div_two_pow_ne_zero hpos ?_
    unfold totalExponent at hj ht
    omega
  have hrlog := log2_div_two_pow hr
  have hrtotal := totalExponent_div hr (e + k)
  rw [heq, dif_neg hr]
  refine ⟨_, _, _, rfl, ?_, ?_, ?_⟩
  · unfold totalExponent at hj ht
    omega
  · rw [hrtotal]
    unfold totalExponent
    omega
  · rw [hrtotal]
    unfold totalExponent
    omega

/-! ## Packing -/

section

variable (b : BitVec 64)

/-- The exponent of packed bits. -/
def exponentField : Nat := (@unpackExponent Format.binary64 b).toNat

/-- The digits of packed bits after the leading one. -/
def fractionField : Nat := (@unpackMantissa Format.binary64 b).toNat

theorem fractionField_lt : fractionField b < 2 ^ 52 :=
  (@unpackMantissa Format.binary64 b).isLt

theorem exponentField_eq : exponentField b = b.toNat / 2 ^ 52 % 2048 := by
  simp [exponentField, unpackExponent, Nat.shiftRight_eq_div_pow]

theorem unpackExponent_eq_iff (e : BitVec 11) :
    @unpackExponent Format.binary64 b = e ↔ exponentField b = e.toNat :=
  BitVec.toNat_inj.symm

theorem unpack_special (h : exponentField b = 2047) :
    (unpack Format.binary64 b).isFinite = false := by
  have he := (unpackExponent_eq_iff b (-1#11)).2 h
  unfold UnpackedFloat.unpack
  simp only
  rw [if_pos he]
  split <;> rfl

theorem unpack_infinite (h : exponentField b = 2047) (h0 : fractionField b = 0) :
    (unpack Format.binary64 b).isInf = true := by
  have he := (unpackExponent_eq_iff b (-1#11)).2 h
  have hm : @unpackMantissa Format.binary64 b = 0#52 := BitVec.toNat_inj.1 h0
  unfold UnpackedFloat.unpack
  simp only
  rw [if_pos he, if_pos hm]
  rfl

theorem unpack_subnormal (h : exponentField b = 0) :
    Below (-1022) (unpack Format.binary64 b) := by
  have he := (unpackExponent_eq_iff b 0#11).2 h
  have hfraction := fractionField_lt b
  unfold UnpackedFloat.unpack
  simp only
  rw [he, if_neg (by decide), if_pos rfl]
  split
  · exact .zero _
  · next hm =>
    have hlog : (fractionField b).log2 < 52 := by
      refine (Nat.log2_lt ?_).2 hfraction
      intro hzero
      exact hm (BitVec.toNat_inj.1 hzero)
    have hbias : ((0#11).toNat : Int) - (Format.binary64.exponentBias + 52) + 1 = -1074 := by decide
    refine .finite ?_
    show ((fractionField b).log2 : Int) + 1 + _ ≤ -1022
    omega

theorem unpack_normal (h : exponentField b ≠ 2047) (h0 : exponentField b ≠ 0) :
    ∃ s hm, unpack Format.binary64 b
      = .finite s (2 ^ 52 + fractionField b) (exponentField b - 1075) hm := by
  have he := fun he => h ((unpackExponent_eq_iff b (-1#11)).1 he)
  have he0 := fun he => h0 ((unpackExponent_eq_iff b 0#11).1 he)
  have hmantissa : (1#1 ++ @unpackMantissa Format.binary64 b).toNat
      = 2 ^ 52 + fractionField b := by
    rw [BitVec.toNat_append]
    show 1 <<< 52 ||| fractionField b = _
    rw [← Nat.shiftLeft_add_eq_or_of_lt (fractionField_lt b)]
    rfl
  refine ⟨Sign.ofBitVec (@unpackSign Format.binary64 b), by positivity, ?_⟩
  unfold UnpackedFloat.unpack
  simp only
  rw [if_neg he, if_neg he0]
  congr 1

theorem log2_leading_one : (2 ^ 52 + fractionField b).log2 = 52 := by
  have hfraction := fractionField_lt b
  rw [Nat.log2_eq_iff (by positivity)]
  omega

theorem below_unpack (h : exponentField b ≠ 2047) :
    Below 1024 (unpack Format.binary64 b) := by
  by_cases h0 : exponentField b = 0
  · exact (unpack_subnormal b h0).mono (by decide)
  · obtain ⟨s, hm, heq⟩ := unpack_normal b h h0
    have hlt : exponentField b < 2048 := by
      rw [exponentField_eq]
      exact Nat.mod_lt _ (by decide)
    rw [heq]
    refine .finite ?_
    rw [totalExponent, log2_leading_one]
    omega

theorem isFinite_of_below {t : Int} {u : UnpackedFloat} (h : Below t u) : u.isFinite = true := by
  cases h <;> rfl

theorem isFinite_unpack_iff :
    (unpack Format.binary64 b).isFinite = true ↔ exponentField b ≠ 2047 := by
  constructor
  · intro h he
    rw [unpack_special b he] at h
    cases h
  · intro h
    exact isFinite_of_below (below_unpack b h)

theorem isFinite_ofBits_iff : (Binary.ofBits b.toNat).isFinite = true ↔ exponentField b ≠ 2047 := by
  rw [Binary.ofBits_eq, ← exponentField_eq, Binary.ofFields]
  split
  · next h => split <;> simp [Binary.isFinite, h]
  · next h => split <;> simp [Binary.isFinite, h]

end

theorem isFinite_ofFloat (x : Float) : (Binary.ofFloat x).isFinite = x.isFinite :=
  Bool.eq_iff_iff.2 ((isFinite_ofBits_iff x.toModel.toBits.toBitVec).trans
    (isFinite_unpack_iff x.toModel.toBits.toBitVec).symm)

theorem exponentField_packComponents (s : Sign) (e : BitVec 11) (m : BitVec 52) :
    exponentField (packComponents Format.binary64 s e m) = e.toNat :=
  congrArg BitVec.toNat unpackExponent_packComponents

theorem fractionField_packComponents (s : Sign) (e : BitVec 11) (m : BitVec 52) :
    fractionField (packComponents Format.binary64 s e m) = m.toNat :=
  congrArg BitVec.toNat unpackMantissa_packComponents

theorem pack_finite (s : Sign) (m : Nat) (e : Int) (hm : 0 < m) :
    pack Format.binary64 (.finite s m e hm) =
      if 2048 ≤ (e + 1075).toNat + 1 then packComponents Format.binary64 s (-1#11) 0#52
      else if m.log2 + 1 = 53 then
        packComponents Format.binary64 s (BitVec.ofNat 11 (e + 1075).toNat) (BitVec.ofNat 52 m)
      else packComponents Format.binary64 s 0#11 (BitVec.ofNat 52 m) := by
  have hbias : e + (Format.binary64.exponentBias : Int) + (52 : Nat) = e + 1075 := by
    have hb : Format.binary64.exponentBias = 1023 := by decide
    omega
  show (if 2048 ≤ (e + (Format.binary64.exponentBias : Int) + (52 : Nat)).toNat + 1 then _ else
    if m.log2 + 1 = 53 then packComponents Format.binary64 s (BitVec.ofNat 11
      (e + (Format.binary64.exponentBias : Int) + (52 : Nat)).toNat) _ else _) = _
  rw [hbias]
  rfl

/-- A number of 53 digits within the exponents of doubles is kept. -/
theorem unpack_pack_normal (s : Sign) {m : Nat} (e : Int) (hm : 0 < m) (hlog : m.log2 = 52)
    (hlow : -1074 ≤ e) (hhigh : e ≤ 971) :
    ∃ s', unpack Format.binary64 (pack Format.binary64 (.finite s m e hm)) = .finite s' m e hm := by
  have hfield : (BitVec.ofNat 11 (e + 1075).toNat).toNat = (e + 1075).toNat := by
    rw [BitVec.toNat_ofNat, Nat.mod_eq_of_lt (by omega)]
  have hdigits : 2 ^ 52 + (BitVec.ofNat 52 m).toNat = m := by
    have hbounds := (Nat.log2_eq_iff hm.ne').1 hlog
    rw [BitVec.toNat_ofNat]
    omega
  rw [pack_finite, if_neg (by omega), if_pos (by omega)]
  obtain ⟨s', hm', heq⟩ := unpack_normal (packComponents Format.binary64 s
    (BitVec.ofNat 11 (e + 1075).toNat) (BitVec.ofNat 52 m))
    (by rw [exponentField_packComponents, hfield]; omega)
    (by rw [exponentField_packComponents, hfield]; omega)
  refine ⟨s', heq.trans ?_⟩
  congr 1
  · rw [fractionField_packComponents, hdigits]
  · rw [exponentField_packComponents, hfield]
    omega

theorem below_unpack_pack {t : Int} {u : UnpackedFloat} (h : Below t u) (hlow : -1022 ≤ t)
    (hhigh : t ≤ 972) : Below t (unpack Format.binary64 (pack Format.binary64 u)) := by
  have hsubnormal : ∀ (s : Sign) (m : BitVec 52),
      Below t (unpack Format.binary64 (packComponents Format.binary64 s 0#11 m)) := by
    intro s m
    exact (unpack_subnormal _ (exponentField_packComponents s 0#11 m)).mono hlow
  cases h with
  | zero s => exact hsubnormal s 0#52
  | @finite s m e hm h =>
    have htotal : (m.log2 : Int) + 1 + e ≤ t := h
    by_cases hlog : m.log2 = 52 ∧ -1074 ≤ e
    · obtain ⟨s', heq⟩ := unpack_pack_normal s e hm hlog.1 hlog.2 (by omega)
      rw [heq]
      exact .finite h
    · rw [pack_finite, if_neg (by omega)]
      split
      · -- The exponent is below that of doubles, and its field is zero.
        rw [show (e + 1075).toNat = 0 by omega]
        exact hsubnormal s _
      · exact hsubnormal s _

/-- Packing makes an infinity at worst of a number. -/
theorem isFinite_or_isInf_unpack_pack {u : UnpackedFloat} (h : u.isFinite = true) :
    (unpack Format.binary64 (pack Format.binary64 u)).isFinite = true ∨
      (unpack Format.binary64 (pack Format.binary64 u)).isInf = true := by
  cases u with
  | zero s =>
    left
    rw [isFinite_unpack_iff]
    exact (exponentField_packComponents s 0#11 0#52).trans_ne (by decide)
  | infinity => cases h
  | notANumber => cases h
  | finite s m e hm =>
    rw [pack_finite, isFinite_unpack_iff]
    split
    · right
      exact unpack_infinite _ (exponentField_packComponents s _ _)
        (fractionField_packComponents s _ _)
    · left
      split
      · rw [exponentField_packComponents, BitVec.toNat_ofNat, Nat.mod_eq_of_lt (by omega)]
        omega
      · exact (exponentField_packComponents s _ _).trans_ne (by decide)

end SqlGateway.Decimal
