import SqlGateway.Proofs.Decimal.Nearest

/-!
# No two doubles share a decimal

The intervals of the rationals that read back as two doubles do not meet: they
could only do so at an end that both hold, and of two neighbours one has the odd
mantissa and holds neither of its ends.

    written tie m q = written tie m' q'   →   m = m' and q = q'
    ofFloat x = ofFloat y                 →   x = y, unless both are NaN
-/

namespace SqlGateway.Decimal

/-! ## Algorithm -/

/-- The rational that is written for `m · 2 ^ q`. -/
def written (tie : Tie) (m : Nat) (q : Int) : Rat :=
  (shortest tie m q).1 * 10 ^ (shortest tie m q).2

/-! ## Mantissa and exponent -/

theorem IsDouble.eq_of_le {m m' : Nat} {q q' : Int} (h : IsDouble m q) (h' : IsDouble m' q')
    (heq : (m : Rat) * 2 ^ q = m' * 2 ^ q') (hle : q ≤ q') : m = m' ∧ q = q' := by
  have hq : (2 : Rat) ^ q ≠ 0 := by positivity
  obtain ⟨j, hj, hpow⟩ := pow_split hle
  rw [hpow, ← mul_assoc, mul_left_inj' hq] at heq
  have hnat : m = m' * 2 ^ j := by exact_mod_cast heq
  rcases Nat.eq_zero_or_pos j with rfl | hpos
  · exact ⟨by omega, by omega⟩
  · -- The one with the greater exponent has a leading one, and the other is too great then.
    have hm' := h'.normal_of_lt h (by omega)
    have hmul : m' * 2 ≤ m' * 2 ^ j := Nat.mul_le_mul_left m' (two_le_pow hpos)
    have hm := h.mantissa_lt
    omega

/-- A double has one mantissa and one exponent. -/
theorem IsDouble.eq {m m' : Nat} {q q' : Int} (h : IsDouble m q) (h' : IsDouble m' q')
    (heq : (m : Rat) * 2 ^ q = m' * 2 ^ q') : m = m' ∧ q = q' := by
  rcases Int.le_total q q' with hle | hle
  · exact h.eq_of_le h' heq hle
  · obtain ⟨hm, hq⟩ := h'.eq_of_le h heq.symm hle
    exact ⟨hm.symm, hq.symm⟩

/-! ## Intervals -/

/-- No rational reads back as a double and as a greater one. -/
theorem ReadsAs.not_lt {m m' : Nat} {q q' : Int} {r : Rat} (h : IsDouble m q)
    (h' : IsDouble m' q') (hr : ReadsAs m q r) (hr' : ReadsAs m' q' r) :
    ¬ (m : Rat) * 2 ^ q < m' * 2 ^ q' := by
  intro hlt
  have hu : (0 : Rat) < 2 ^ (q - 2) := by positivity
  have hv : (m : Rat) * 2 ^ q = 4 * m * 2 ^ (q - 2) := by
    rw [quarter q]
    ring
  have hv' : (m' : Rat) * 2 ^ q' = 4 * m' * 2 ^ (q' - 2) := by
    rw [quarter q']
    ring
  have hm' : 0 < m' := by
    rw [Nat.pos_iff_ne_zero]
    rintro rfl
    have hnonneg : (0 : Rat) ≤ m * 2 ^ q := by positivity
    simp only [Nat.cast_zero, zero_mul] at hlt
    linarith
  have hreach := lowerReach_pos m' q'
  have hnext := next_double h h' hlt
  have hprevious := previous_double h' h hlt
  have habove := hr'.above
  have hbelow := hr.below
  rw [Nat.cast_sub (by omega)] at hprevious habove
  push_cast at hnext hprevious habove hbelow
  rw [hv'] at hnext
  rw [hv] at hprevious
  -- Half the way between the two is the end of both intervals, so both mantissas are even.
  have hend : r = (4 * m + 2) * 2 ^ (q - 2) := by
    rcases hbelow with hb | ⟨-, hb⟩
    · rcases habove with ha | ⟨-, ha⟩ <;> linarith
    · exact hb
  have heven : m % 2 = 0 := by
    rcases hbelow with hb | ⟨heven, -⟩
    · linarith
    · exact heven
  have heven' : m' % 2 = 0 := by
    rcases habove with ha | ⟨heven, -⟩
    · linarith
    · exact heven
  have hvalue : ((m + 1 : Nat) : Rat) * 2 ^ q = m' * 2 ^ q' := by
    have hle : 4 * (m' : Rat) * 2 ^ (q' - 2) ≤ (4 * m + 4) * 2 ^ (q - 2) := by
      rcases habove with ha | ⟨-, ha⟩ <;> linarith
    rw [hv', quarter q]
    push_cast
    linarith
  have hsucc : IsDouble (m + 1) q := by
    refine ⟨?_, h.least, h.greatest, ?_⟩
    · have hlt := h.mantissa_lt
      omega
    · rcases h.normal with hn | hn
      · exact .inl (by omega)
      · exact .inr hn
  obtain ⟨hodd, -⟩ := hsucc.eq h' hvalue
  omega

theorem ReadsAs.eq {m m' : Nat} {q q' : Int} {r : Rat} (h : IsDouble m q) (h' : IsDouble m' q')
    (hr : ReadsAs m q r) (hr' : ReadsAs m' q' r) : m = m' ∧ q = q' := by
  rcases lt_trichotomy ((m : Rat) * 2 ^ q) (m' * 2 ^ q') with hlt | heq | hgt
  · exact absurd hlt (hr.not_lt h h' hr')
  · exact h.eq h' heq
  · exact absurd hgt (hr'.not_lt h' h hr)

/-! ## What is written -/

theorem written_zero (tie : Tie) (q : Int) : written tie 0 q = 0 := by
  have hs : shortest tie 0 q = (0, 0) := rfl
  unfold written
  rw [hs]
  simp

theorem written_pos (tie : Tie) {m : Nat} {q : Int} (hm : 0 < m) (h : IsDouble m q) :
    0 < written tie m q := by
  have hreach := lowerReach_pos m q
  have hlow : (0 : Rat) < (4 * m - lowerReach m q : Nat) * 2 ^ (q - 2) := by
    have : 0 < 4 * m - lowerReach m q := by omega
    positivity
  rcases (readsAs_shortest tie hm h).above with habove | ⟨-, habove⟩
  · exact hlow.trans habove
  · exact hlow.trans_eq habove

/-- **Doubles differ where they are written.**  What is written for a double is written for no
other one. -/
theorem written_inj (tie : Tie) {m m' : Nat} {q q' : Int} (h : IsDouble m q) (h' : IsDouble m' q')
    (heq : written tie m q = written tie m' q') : m = m' ∧ q = q' := by
  rcases Nat.eq_zero_or_pos m with rfl | hm
  · rcases Nat.eq_zero_or_pos m' with rfl | hm'
    · exact h.eq h' (by simp)
    · have hpos := written_pos tie hm' h'
      rw [← heq, written_zero] at hpos
      exact absurd hpos (lt_irrefl 0)
  · rcases Nat.eq_zero_or_pos m' with rfl | hm'
    · have hpos := written_pos tie hm h
      rw [heq, written_zero] at hpos
      exact absurd hpos (lt_irrefl 0)
    · have hr' : ReadsAs m' q' (written tie m q) := by
        rw [heq]
        exact readsAs_shortest tie hm' h'
      exact (readsAs_shortest tie hm h).eq h h' hr'

/-! ## Bits -/

namespace Binary

/-- The double with this sign, exponent and fraction. -/
def ofFields (negative : Bool) (e f : Nat) : Binary :=
  if e = 2047 then (if f = 0 then .infinite negative else .nan)
  else if e = 0 then .finite negative f (-1074)
  else .finite negative (2 ^ 52 + f) ((e : Int) - 1075)

theorem ofBits_eq (bits : Nat) : ofBits bits
    = ofFields (decide (2 ^ 63 ≤ bits)) (bits / 2 ^ 52 % 2048) (bits % 2 ^ 52) :=
  rfl

theorem ofFields_inj {negative negative' : Bool} {e e' f f' : Nat} (hf : f < 2 ^ 52)
    (hf' : f' < 2 ^ 52) (hnan : ofFields negative e f ≠ .nan)
    (h : ofFields negative e f = ofFields negative' e' f') :
    negative = negative' ∧ e = e' ∧ f = f' := by
  unfold ofFields at h hnan
  by_cases he : e = 2047
  · by_cases hzero : f = 0
    · rw [if_pos he, if_pos hzero] at h
      split at h
      · split at h
        · cases h
          exact ⟨rfl, by omega, by omega⟩
        · cases h
      · split at h <;> cases h
    · rw [if_pos he, if_neg hzero] at hnan
      exact absurd rfl hnan
  · rw [if_neg he] at h
    by_cases he' : e' = 2047
    · rw [if_pos he'] at h
      split at h <;> split at h <;> cases h
    · rw [if_neg he'] at h
      -- A fraction alone is below all mantissas that have a leading one.
      split at h <;> split at h <;> simp only [finite.injEq] at h <;>
        exact ⟨h.1, by omega, by omega⟩

/-- The bits of a double are its sign, its exponent and its fraction. -/
theorem ofBits_inj {a b : Nat} (ha : a < 2 ^ 64) (hb : b < 2 ^ 64) (hnan : ofBits a ≠ .nan)
    (h : ofBits a = ofBits b) : a = b := by
  rw [ofBits_eq a] at h hnan
  rw [ofBits_eq b] at h
  have hfraction : ∀ bits : Nat, bits % 2 ^ 52 < 2 ^ 52 := fun bits => Nat.mod_lt bits (by decide)
  obtain ⟨hsign, he, hf⟩ := ofFields_inj (hfraction a) (hfraction b) hnan h
  rw [decide_eq_decide] at hsign
  omega

/-- A double that is a number, or an infinity, is told by what it is. -/
theorem ofFloat_inj {x y : Float} (hnan : ofFloat x ≠ .nan) (h : ofFloat x = ofFloat y) :
    x = y := by
  have hbits : x.toBits.toNat = y.toBits.toNat :=
    ofBits_inj x.toBits.toNat_lt y.toBits.toNat_lt hnan h
  rw [← Float.ofBits_toBits x, ← Float.ofBits_toBits y, UInt64.toNat_inj.1 hbits]

end Binary

end SqlGateway.Decimal
