import SqlGateway.Decimal.Signed
import SqlGateway.Proofs.Decimal.Rounding

/-!
# Doubles that stay numbers

Operations on doubles that are numbers give numbers again, as long as their
magnitude leaves room: a bound on the leading exponents of the operands bounds that
of the result.

    |x| < 2 ^ t  and  |y| < 2 ^ t'   →   |x * y| < 2 ^ (t + t' + 1)
    |x| < 2 ^ t  and  2 ≤ |y|        →   |x / y| < 2 ^ t
-/

namespace SqlGateway.Decimal

open Float.Model (Format UnpackedFloat totalExponent)
open Float.Model.UnpackedFloat

/-- A double that is a number below `2 ^ t`. -/
def IsBelow (t : Int) (x : Float) : Prop :=
  Below t x.toModel.unpack

/-- A number that is no less than two, whatever its sign. -/
inductive Great : UnpackedFloat → Prop
  | finite {s : Sign} {m : Nat} {e : Int} {hm : 0 < m} (h : 2 ≤ totalExponent m e) :
    Great (.finite s m e hm)

instance : DecidablePred Great
  | .finite _ m e _ => decidable_of_iff (2 ≤ totalExponent m e)
    ⟨Great.finite, fun | .finite h => h⟩
  | .zero _ => .isFalse nofun
  | .infinity _ => .isFalse nofun
  | .notANumber => .isFalse nofun

/-- A double that is no less than two, whatever its sign. -/
def IsGreat (x : Float) : Prop :=
  Great x.toModel.unpack

instance (x : Float) : Decidable (IsGreat x) :=
  inferInstanceAs (Decidable (Great x.toModel.unpack))

theorem IsBelow.isFinite {t : Int} {x : Float} (h : IsBelow t x) : x.isFinite = true :=
  isFinite_of_below h

/-! ## Products -/

theorem log2_mul_le (m n : Nat) : (m * n).log2 ≤ m.log2 + n.log2 + 1 := by
  rcases Nat.eq_zero_or_pos (m * n) with hzero | hpos
  · rw [hzero]
    exact Nat.zero_le _
  · have hlt : m * n < 2 ^ (m.log2 + n.log2 + 2) := by
      rw [show m.log2 + n.log2 + 2 = (m.log2 + 1) + (n.log2 + 1) by omega, pow_add]
      exact Nat.mul_lt_mul'' Nat.lt_log2_self Nat.lt_log2_self
    exact Nat.le_of_lt_succ ((Nat.log2_lt hpos.ne').2 hlt)

theorem below_mul {t t' : Int} {u v : UnpackedFloat} (hu : Below t u) (hv : Below t' v) :
    Below (max (t + t' + 1) (-1073)) (mul Format.binary64 u v) := by
  cases hu with
  | zero s => cases hv <;> exact .zero _
  | @finite s m e hm hu =>
    cases hv with
    | zero s' => exact .zero _
    | @finite s' m' e' hm' hv =>
      have hlog := log2_mul_le m m'
      refine (below_roundWithAccuracy (s * s') (m * m') (e + e') .exact).mono ?_
      unfold totalExponent at hu hv ⊢
      omega

theorem IsBelow.mul {t t' : Int} {x y : Float} (hx : IsBelow t x) (hy : IsBelow t' y)
    (hlow : -1022 ≤ t + t' + 1) (hhigh : t + t' + 1 ≤ 972) : IsBelow (t + t' + 1) (x * y) :=
  below_unpack_pack ((below_mul hx hy).mono (by omega)) hlow hhigh

theorem isBelow_of_isFinite {x : Float} (h : x.isFinite = true) : IsBelow 1024 x :=
  below_unpack _ ((isFinite_unpack_iff _).1 h)

/-- A product of numbers that is no infinity is a number. -/
theorem isFinite_mul {x y : Float} (hx : x.isFinite = true) (hy : y.isFinite = true)
    (h : (x * y).isInf = false) : (x * y).isFinite = true := by
  have hproduct := isFinite_of_below (below_mul (isBelow_of_isFinite hx) (isBelow_of_isFinite hy))
  refine (isFinite_or_isInf_unpack_pack hproduct).resolve_right fun hinf => ?_
  have hinf' : (x * y).isInf = true := hinf
  rw [h] at hinf'
  cases hinf'

/-! ## Quotients -/

theorem log2_div_add_le {m n : Nat} (h : m / n ≠ 0) : (m / n).log2 + n.log2 ≤ m.log2 := by
  have hn : n ≠ 0 := by
    rintro rfl
    simp at h
  have hm : m ≠ 0 := by
    rintro rfl
    simp at h
  rw [Nat.le_log2 hm, pow_add]
  calc 2 ^ (m / n).log2 * 2 ^ n.log2 ≤ m / n * n :=
        Nat.mul_le_mul (Nat.log2_self_le h) (Nat.log2_self_le hn)
    _ ≤ m := Nat.div_mul_le_self m n

/-- The quotient that is rounded is less than half the numerator. -/
theorem totalExponent_divCore_lt {t : Int} {m m' : Nat} {e e' : Int} (hm : 0 < m)
    (hu : totalExponent m e ≤ t) (hv : 2 ≤ totalExponent m' e') (ht : -1072 ≤ t) :
    totalExponent (divCore Format.binary64 m e m' e').1 (divCore Format.binary64 m e m' e').2.1
      < t := by
  -- The exponent that the quotient is computed for, and how far the numerator is shifted.
  obtain ⟨target, htarget⟩ : ∃ target, target = min (e - e')
      (max (totalExponent m e - totalExponent m' e' - 53) (-1074)) := ⟨_, rfl⟩
  have hcore : divCore Format.binary64 m e m' e' = ((m <<< (e - e' - target).toNat) / m', target,
      accuracyOfFraction ((m <<< (e - e' - target).toNat) % m') m') := by
    rw [htarget]
    rfl
  rw [hcore]
  unfold totalExponent at hu hv htarget ⊢
  dsimp only
  by_cases hzero : (m <<< (e - e' - target).toNat) / m' = 0
  · rw [hzero, Nat.log2_zero]
    omega
  · have hlog := log2_div_add_le hzero
    rw [log2_shiftLeft hm.ne'] at hlog
    omega

theorem below_div {t : Int} {u v : UnpackedFloat} (hu : Below t u) (hv : Great v)
    (ht : -1072 ≤ t) : Below t (div Format.binary64 u v) := by
  cases hv with
  | @finite s' m' e' hm' hv =>
    cases hu with
    | zero s => exact .zero _
    | @finite s m e hm hu =>
      have hlt := totalExponent_divCore_lt hm hu hv ht
      exact (below_roundWithAccuracy (s / s') _ _ _).mono (max_le hlt (by omega))

theorem IsBelow.div {t : Int} {x y : Float} (hx : IsBelow t x) (hy : IsGreat y)
    (hlow : -1022 ≤ t) (hhigh : t ≤ 972) : IsBelow t (x / y) :=
  below_unpack_pack (below_div hx hy (by omega)) hlow hhigh

/-! ## Signs -/

theorem Below.neg {t : Int} {u : UnpackedFloat} (h : Below t u) : Below t u.neg := by
  cases h with
  | zero s => exact .zero (-s)
  | finite h => exact .finite h

theorem isFinite_neg {x : Float} (h : x.isFinite = true) : (-x).isFinite = true := by
  have he := (isFinite_unpack_iff x.toModel.toBits.toBitVec).1 h
  -- Subnormal numbers stay below the least exponent; all others are packed digit by digit.
  by_cases h0 : exponentField x.toModel.toBits.toBitVec = 0
  · exact isFinite_of_below (below_unpack_pack (unpack_subnormal _ h0).neg le_rfl (by decide))
  · obtain ⟨s, hm, hunpack⟩ := unpack_normal _ he h0
    have hlt : exponentField x.toModel.toBits.toBitVec < 2048 := by
      rw [exponentField_eq]
      exact Nat.mod_lt _ (by decide)
    obtain ⟨s', hpack⟩ :=
      unpack_pack_normal (-s) (exponentField x.toModel.toBits.toBitVec - 1075) hm
        (log2_leading_one _) (by omega) (by omega)
    show (unpack Format.binary64 (pack Format.binary64
      (unpack Format.binary64 x.toModel.toBits.toBitVec).neg)).isFinite = true
    rw [hunpack]
    show (unpack Format.binary64 (pack Format.binary64 (.finite (-s) _ _ hm))).isFinite = true
    rw [hpack]
    rfl

/-! ## Whole numbers and powers of ten -/

theorem below_round (s : Sign) (m : Nat) (e : Int) :
    Below (max (totalExponent m e + 1) (-1073)) (round Format.binary64 s m e) := by
  obtain ⟨k, hk⟩ : ∃ k, k = (e - Format.binary64.targetExponent (totalExponent m e)).toNat :=
    ⟨_, rfl⟩
  have hround : round Format.binary64 s m e
      = roundWithAccuracy Format.binary64 s (m <<< k) (e - k) .exact := by
    rw [hk]
    rfl
  have hshift : totalExponent (m <<< k) (e - k) ≤ totalExponent m e := by
    unfold totalExponent
    rcases Nat.eq_zero_or_pos m with rfl | hm
    · rw [Nat.zero_shiftLeft]
      omega
    · rw [log2_shiftLeft hm.ne']
      omega
  rw [hround]
  exact (below_roundWithAccuracy s (m <<< k) (e - k) .exact).mono (by omega)

theorem log2_le_of_le {n : Nat} (h : n ≤ greatestUInt64) : n.log2 ≤ 63 := by
  rcases Nat.eq_zero_or_pos n with rfl | hn
  · exact Nat.zero_le 63
  · exact Nat.le_of_lt_succ ((Nat.log2_lt hn.ne').2 (Nat.lt_succ_of_le h))

theorem isBelow_toFloat (n : UInt64) : IsBelow 65 n.toFloat := by
  have hlog : n.toNat.log2 ≤ 63 := log2_le_of_le (Nat.le_of_lt_succ n.toNat_lt)
  have hnormal : Below 65 (UnpackedFloat.normalize Format.binary64 n.toNat 0 .positive) := by
    unfold UnpackedFloat.normalize
    split
    · next hlt =>
      rw [compare_lt_iff_lt] at hlt
      omega
    · exact .zero .positive
    · refine (below_round .positive n.toNat 0).mono ?_
      unfold totalExponent
      omega
  exact below_unpack_pack hnormal (by decide) (by decide)

/-- The unrounded digits of a whole number are multiplied by the power of ten. -/
theorem unpacked_ofScientific {m n p : Nat} (hm : 0 < m) (hn : n ≤ 2048) (hp : p = 10 ^ n) :
    ∃ h h', UnpackedFloat.ofScientific Format.binary64 m n
      = mul Format.binary64 (.finite .positive (m <<< 53) (-53) h) (.finite .positive p 0 h') := by
  have hbits : (2 : Int) ^ Format.binary64.exponentBits = 2048 := rfl
  have hle : ¬ (n : Int) > 2 ^ Format.binary64.exponentBits := by omega
  have hge : ¬ (n : Int) < -(2 ^ Format.binary64.exponentBits + (m.log2 : Int)) := by omega
  have hshift : 0 < m <<< 53 := by
    rw [Nat.shiftLeft_eq]
    positivity
  have hpower : 0 < p := by
    rw [hp]
    positivity
  subst hp
  refine ⟨hshift, hpower, ?_⟩
  unfold UnpackedFloat.ofScientific
  rw [dif_neg hm.ne', if_neg hle, if_neg hge, if_pos (Int.natCast_nonneg n)]
  rfl

/-- A whole number that fits 64 bits is far below the greatest doubles. -/
theorem isBelow_ofNat {n : Nat} (h : n ≤ greatestUInt64) : IsBelow 67 (Float.ofNat n) := by
  show IsBelow 67 (Float.ofScientific n false 0)
  unfold Float.ofScientific
  split
  · have hone : Below 1 Float.exactlyRepresentablePowersOfTen[0].toModel.unpack := by
      decide +kernel
    exact (isBelow_toFloat n.toUInt64).mul hone (by decide) (by decide)
  · next hslow =>
    have hpos : 0 < n := by omega
    obtain ⟨hshift, hten, heq⟩ := unpacked_ofScientific hpos (Nat.zero_le 2048) (pow_zero 10).symm
    have hlog := log2_le_of_le h
    have hdigits : Below 64 (.finite .positive (n <<< 53) (-53) hshift) := by
      refine .finite ?_
      rw [totalExponent, log2_shiftLeft hpos.ne']
      omega
    have hunit : Below 1 (.finite .positive 1 0 hten) := .finite (by decide)
    have hproduct := below_mul hdigits hunit
    rw [← heq] at hproduct
    exact below_unpack_pack (hproduct.mono (by decide)) (by decide) (by decide)

theorem log2_pow_ten_le {n q : Nat} (h : n ≤ 3 * q) : (10 ^ n).log2 ≤ 10 * q := by
  refine Nat.le_of_lt_succ ((Nat.log2_lt (by positivity)).2 ?_)
  calc 10 ^ n ≤ 10 ^ (3 * q) := Nat.pow_le_pow_right (by decide) h
    _ = (10 ^ 3) ^ q := pow_mul 10 3 q
    _ ≤ (2 ^ 10) ^ q := Nat.pow_le_pow_left (by decide) q
    _ = 2 ^ (10 * q) := (pow_mul 2 10 q).symm
    _ < 2 ^ (10 * q + 1) := Nat.pow_lt_pow_right (by decide) (Nat.lt_succ_self _)

theorem great_ofScientific {n : Nat} (hlow : 1 ≤ n) (hhigh : n ≤ 306) :
    Great (unpack Format.binary64 (pack Format.binary64
      (UnpackedFloat.ofScientific Format.binary64 1 n))) := by
  obtain ⟨p, hp⟩ : ∃ p, p = 10 ^ n := ⟨_, rfl⟩
  obtain ⟨hshift, hten, heq⟩ := unpacked_ofScientific Nat.one_pos (show n ≤ 2048 by omega) hp
  have hlog : 3 ≤ p.log2 := by
    rw [Nat.le_log2 hten.ne', hp]
    calc 2 ^ 3 ≤ 10 ^ 1 := by decide
      _ ≤ 10 ^ n := Nat.pow_le_pow_right (by decide) hlow
  have hlog' : p.log2 ≤ 1020 := by
    rw [hp]
    exact log2_pow_ten_le (show n ≤ 3 * 102 from hhigh)
  have hdigits : (1 <<< 53 * p).log2 = p.log2 + 53 := by
    rw [← log2_shiftLeft hten.ne', Nat.shiftLeft_eq, Nat.shiftLeft_eq, one_mul, mul_comm]
  have htotal : totalExponent (1 <<< 53 * p) (-53 + 0) = p.log2 + 1 := by
    unfold totalExponent
    rw [hdigits]
    omega
  obtain ⟨m, e, hm, hround, hm52, hge, hle⟩ := normal_roundWithAccuracy (.positive * .positive)
    (-53 + 0) .exact (show 52 ≤ (1 <<< 53 * p).log2 by omega) (by omega)
  have hexponent : totalExponent m e = 53 + e := by
    unfold totalExponent
    omega
  obtain ⟨s, hpack⟩ :=
    unpack_pack_normal (.positive * .positive) e hm hm52 (by omega) (by omega)
  have hproduct : UnpackedFloat.ofScientific Format.binary64 1 n
      = .finite (.positive * .positive) m e hm := heq.trans hround
  rw [hproduct, hpack]
  exact .finite (by omega)

theorem IsGreat.isFinite {x : Float} (h : IsGreat x) : x.isFinite = true := by
  have hfinite : ∀ {u}, Great u → u.isFinite = true
    | _, .finite _ => rfl
  exact hfinite h

/-- Powers of ten up to the greatest that is a double. -/
theorem isGreat_ofScientific {n : Nat} (hlow : 1 ≤ n) (hhigh : n ≤ 308) :
    IsGreat (Float.ofScientific 1 false n) := by
  -- The first are looked up in a table, and the last are near the greatest double.
  have hends : ∀ k ∈ 307 :: 308 :: List.range 23, 1 ≤ k →
      IsGreat (Float.ofScientific 1 false k) := by
    decide +kernel
  by_cases h : 23 ≤ n ∧ n ≤ 306
  · unfold Float.ofScientific
    rw [dif_neg (by omega)]
    exact great_ofScientific hlow h.2
  · refine hends n ?_ hlow
    rw [List.mem_cons, List.mem_cons, List.mem_range]
    omega

end SqlGateway.Decimal
