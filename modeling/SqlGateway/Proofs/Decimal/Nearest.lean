import Mathlib
import SqlGateway.Decimal.Layout

/-!
# The shortest decimal reads back

`Nearest b r` says that a reader that rounds correctly takes the rational `r`
for the double `b`: no double is nearer to `r`, and one that is as near leaves
`b` the even mantissa.  The decimal that `shortest` finds lies in the interval of
those rationals, so nothing of a double is lost when it is written.

    b.Nearest b.decimal      for every finite double b
-/

namespace SqlGateway.Decimal

/-! ## Rationals and doubles -/

def signed (negative : Bool) (r : Rat) : Rat :=
  if negative then -r else r

/-- Mantissa and exponent of a finite double. -/
structure IsDouble (m : Nat) (q : Int) : Prop where
  mantissa_lt : m < 2 ^ 53
  least : -1074 ≤ q
  greatest : q ≤ 971
  normal : 2 ^ 52 ≤ m ∨ q = -1074

namespace Binary

/-- The rational that a finite double is; infinities and NaN count as 0. -/
def value : Binary → Rat
  | .finite negative m q => signed negative (m * 2 ^ q)
  | _ => 0

/-- The rational that is written for a finite double. -/
def decimal : Binary → Rat
  | .finite negative m q =>
    signed negative ((shortest .up m q).1 * 10 ^ (shortest .up m q).2)
  | _ => 0

/-- No double is nearer to `r`, and of two that are as near this one has the even mantissa. -/
def Nearest (b : Binary) (r : Rat) : Prop :=
  match b with
  | .finite negative m q =>
    IsDouble m q ∧ ∀ negative' m' q', IsDouble m' q' →
      let v := signed negative (m * 2 ^ q)
      let v' := signed negative' (m' * 2 ^ q')
      v' = v ∨ |r - v| < |r - v'| ∨ |r - v| = |r - v'| ∧ m % 2 = 0
  | _ => False

theorem isDouble_ofBits {bits : Nat} {negative : Bool} {m : Nat} {q : Int}
    (h : ofBits bits = .finite negative m q) : IsDouble m q := by
  unfold ofBits at h
  have he : bits / 2 ^ 52 % 2048 < 2048 := Nat.mod_lt _ (by decide)
  have hf : bits % 2 ^ 52 < 2 ^ 52 := Nat.mod_lt _ (by decide)
  simp only [Nat.pow_eq] at h
  split at h
  · split at h <;> cases h
  · split at h
    · simp only [Binary.finite.injEq] at h
      obtain ⟨-, rfl, rfl⟩ := h
      exact ⟨by omega, by omega, by omega, .inr rfl⟩
    · simp only [Binary.finite.injEq] at h
      obtain ⟨-, rfl, rfl⟩ := h
      exact ⟨by omega, by omega, by omega, .inl (by omega)⟩

end Binary

/-! ## Fractions -/

theorem fraction_eq (x : Nat) (q k : Int) : fraction x q k
    = (x * 2 ^ q.toNat * 10 ^ (-k).toNat, 2 ^ (-q).toNat * 10 ^ k.toNat) :=
  rfl

theorem lowerReach_eq (m : Nat) (q : Int) :
    lowerReach m q = if m = 2 ^ 52 ∧ -1074 < q then 1 else 2 :=
  rfl

theorem fraction_den_pos (x : Nat) (q k : Int) : 0 < (fraction x q k).2 := by
  rw [fraction_eq]
  positivity

theorem fraction_den (x y : Nat) (q k : Int) : (fraction x q k).2 = (fraction y q k).2 :=
  rfl

theorem fraction_lt {x y : Nat} (q k : Int) (h : x < y) :
    (fraction x q k).1 < (fraction y q k).1 := by
  rw [fraction_eq, fraction_eq]
  have h2 : 0 < 2 ^ q.toNat * 10 ^ (-k).toNat := by positivity
  simp only [Nat.mul_assoc]
  exact (Nat.mul_lt_mul_right h2).2 h

/-- The two numbers of a fraction are `x · 2 ^ q` and `10 ^ k`, scaled alike. -/
theorem fraction_spec (x : Nat) (q k : Int) :
    ∃ s : Rat, 0 < s ∧ ((fraction x q k).1 : Rat) = x * 2 ^ q * s ∧
      ((fraction x q k).2 : Rat) = 10 ^ k * s := by
  have split2 : (2 : Rat) ^ q.toNat = 2 ^ q * 2 ^ (-q).toNat := by
    rw [← zpow_natCast, ← zpow_natCast, ← zpow_add₀ (by norm_num)]
    congr 1
    omega
  have split10 : (10 : Rat) ^ k.toNat = 10 ^ k * 10 ^ (-k).toNat := by
    rw [← zpow_natCast, ← zpow_natCast, ← zpow_add₀ (by norm_num)]
    congr 1
    omega
  refine ⟨2 ^ (-q).toNat * 10 ^ (-k).toNat, by positivity, ?_, ?_⟩
  · rw [fraction_eq]
    push_cast
    rw [split2]
    ring
  · rw [fraction_eq]
    push_cast
    rw [split10]
    ring

/-! ## The interval of a double -/

/-- The rationals that read back as `m · 2 ^ q`, with the ends of the interval if `m` is even. -/
structure ReadsAs (m : Nat) (q : Int) (r : Rat) : Prop where
  above : (4 * m - lowerReach m q : Nat) * 2 ^ (q - 2) < r ∨
    m % 2 = 0 ∧ (4 * m - lowerReach m q : Nat) * 2 ^ (q - 2) = r
  below : r < (4 * m + 2 : Nat) * 2 ^ (q - 2) ∨ m % 2 = 0 ∧ r = (4 * m + 2 : Nat) * 2 ^ (q - 2)

theorem lowerReach_pos (m : Nat) (q : Int) : 0 < lowerReach m q ∧ lowerReach m q ≤ 2 := by
  rw [lowerReach_eq]
  split <;> omega

/-- Whatever neighbour is taken, it lies between the bounds that it was compared with. -/
theorem onGrid?_bounds {tie : Tie} {m : Nat} {q k : Int} {n : Nat} (hm : 0 < m)
    (h : onGrid? tie m q k = some n) :
    let den := (fraction (4 * m) (q - 2) k).2
    let low := (fraction (4 * m - lowerReach m q) (q - 2) k).1
    let high := (fraction (4 * m + 2) (q - 2) k).1
    (low < n * den ∨ m % 2 = 0 ∧ low = n * den) ∧ (n * den < high ∨ m % 2 = 0 ∧ n * den = high) := by
  have hreach := lowerReach_pos m q
  have hlow := fraction_lt (q - 2) k (show 4 * m - lowerReach m q < 4 * m by omega)
  have hhigh := fraction_lt (q - 2) k (show 4 * m < 4 * m + 2 by omega)
  have hpos := fraction_den_pos (4 * m) (q - 2) k
  unfold onGrid? at h
  generalize (fraction (4 * m - lowerReach m q) (q - 2) k).1 = low at *
  generalize (fraction (4 * m + 2) (q - 2) k).1 = high at *
  generalize fraction (4 * m) (q - 2) k = f at *
  obtain ⟨num, den⟩ := f
  simp only at *
  have hfloor : num / den * den ≤ num := Nat.div_mul_le_self num den
  have hceil : num < (num / den + 1) * den := by
    rw [Nat.add_mul, Nat.one_mul]
    exact Nat.lt_div_mul_add hpos
  generalize num / den = d at *
  split at h
  · next he =>
    cases h
    exact ⟨.inl (by omega), .inl (by omega)⟩
  · split at h
    · next he hd =>
      cases h
      exact ⟨hd.1, .inl (by omega)⟩
    · split at h
      · next he hd hu =>
        cases h
        exact ⟨.inl (by omega), hu⟩
      · cases h

theorem readsAs_of_onGrid? {tie : Tie} {m : Nat} {q k : Int} {n : Nat} (hm : 0 < m)
    (h : onGrid? tie m q k = some n) : ReadsAs m q (n * 10 ^ k) := by
  obtain ⟨hl, hh⟩ := onGrid?_bounds hm h
  obtain ⟨s, hs, -, hden⟩ := fraction_spec (4 * m) (q - 2) k
  -- all three fractions are scaled by one factor
  have scale : ∀ x : Nat, ((fraction x (q - 2) k).1 : Rat) = x * 2 ^ (q - 2) * s := by
    intro x
    obtain ⟨t, ht, hnum, hden'⟩ := fraction_spec x (q - 2) k
    rw [fraction_den x (4 * m), hden] at hden'
    have : s = t := mul_left_cancel₀ (by positivity) hden'
    rw [hnum, this]
  have hn : ((n * (fraction (4 * m) (q - 2) k).2 : Nat) : Rat) = n * 10 ^ k * s := by
    push_cast
    rw [hden]
    ring
  have lt_left : ∀ x, (fraction x (q - 2) k).1 < n * (fraction (4 * m) (q - 2) k).2 →
      (x : Rat) * 2 ^ (q - 2) < n * 10 ^ k := by
    intro x hx
    rwa [← Nat.cast_lt (α := Rat), hn, scale, mul_lt_mul_iff_left₀ hs] at hx
  have lt_right : ∀ x, n * (fraction (4 * m) (q - 2) k).2 < (fraction x (q - 2) k).1 →
      (n : Rat) * 10 ^ k < x * 2 ^ (q - 2) := by
    intro x hx
    rwa [← Nat.cast_lt (α := Rat), hn, scale, mul_lt_mul_iff_left₀ hs] at hx
  have eq : ∀ x, (fraction x (q - 2) k).1 = n * (fraction (4 * m) (q - 2) k).2 →
      (x : Rat) * 2 ^ (q - 2) = n * 10 ^ k := by
    intro x hx
    rw [← Nat.cast_inj (R := Rat), hn, scale] at hx
    exact mul_right_cancel₀ hs.ne' hx
  exact ⟨hl.imp (lt_left _) fun h => ⟨h.1, eq _ h.2⟩,
    hh.imp (lt_right _) fun h => ⟨h.1, (eq _ h.2.symm).symm⟩⟩

/-! ## Seventeen digits suffice -/

theorem power_check_up : ∀ n < 1024, 10 ^ (n * 30103 / 100000) ≤ 2 ^ n := by
  decide +kernel

theorem power_check_down : ∀ n < 1075, 2 ^ n ≤ 10 ^ ((n * 30103 + 99999) / 100000) := by
  decide +kernel

/-- 0.30103 is a little more than the decimal logarithm of two, but not so much that it shows
within the exponents of doubles. -/
theorem guess_le (l : Int) (h1 : -1074 ≤ l) (h2 : l ≤ 1023) :
    (10 : Rat) ^ (l * 30103).fdiv 100000 ≤ 2 ^ l := by
  rw [Int.fdiv_eq_ediv_of_nonneg _ (by decide)]
  rcases Int.le_total 0 l with h | h
  · obtain ⟨n, rfl⟩ := Int.eq_ofNat_of_zero_le h
    rw [show ((n : Int) * 30103) / 100000 = ((n * 30103 / 100000 : Nat) : Int) by push_cast; rfl,
      zpow_natCast, zpow_natCast]
    exact_mod_cast power_check_up n (by omega)
  · obtain ⟨n, rfl⟩ : ∃ n : Nat, l = -(n : Int) := ⟨l.natAbs, by omega⟩
    rw [show (-(n : Int) * 30103) / 100000 = -(((n * 30103 + 99999) / 100000 : Nat) : Int) by
      push_cast; omega, zpow_neg, zpow_neg, zpow_natCast, zpow_natCast]
    apply inv_anti₀ (by positivity)
    exact_mod_cast power_check_down n (by omega)

theorem leadingExponent_le {m : Nat} {q : Int} (hm : 0 < m) (h : IsDouble m q) :
    (10 : Rat) ^ leadingExponent m q ≤ m * 2 ^ q := by
  have hlog : 2 ^ m.log2 ≤ m := Nat.log2_self_le (by omega)
  have hl : m.log2 < 53 := (Nat.log2_lt (by omega)).2 h.mantissa_lt
  unfold leadingExponent
  simp only
  generalize hg : ((m.log2 + q) * 30103).fdiv 100000 = guess
  have hguess : (10 : Rat) ^ guess ≤ m * 2 ^ q := by
    have hle := guess_le (m.log2 + q) (by have := h.least; omega) (by have := h.greatest; omega)
    rw [hg, zpow_add₀ (by norm_num), zpow_natCast] at hle
    refine hle.trans (mul_le_mul_of_nonneg_right ?_ (by positivity))
    exact_mod_cast hlog
  split
  · next hd =>
    obtain ⟨s, hs, hnum, hden⟩ := fraction_spec m q (guess + 1)
    rw [← Nat.cast_le (α := Rat), hnum, hden] at hd
    exact (mul_le_mul_iff_left₀ hs).1 hd
  · exact hguess

/-- A grid that is finer than the interval is wide has a point in it. -/
theorem onGrid?_isSome {tie : Tie} {m : Nat} {q k : Int} (hm : 0 < m)
    (hk : (10 : Rat) ^ k < (2 + lowerReach m q : Nat) * 2 ^ (q - 2)) :
    (onGrid? tie m q k).isSome := by
  have hreach := lowerReach_pos m q
  have hwide : (fraction (4 * m - lowerReach m q) (q - 2) k).1 + (fraction (4 * m) (q - 2) k).2
      < (fraction (4 * m + 2) (q - 2) k).1 := by
    have hnat : (fraction (4 * m + 2) (q - 2) k).1
        = (fraction (4 * m - lowerReach m q) (q - 2) k).1
          + (fraction (2 + lowerReach m q) (q - 2) k).1 := by
      rw [fraction_eq, fraction_eq, fraction_eq]
      simp only
      rw [← Nat.add_mul, ← Nat.add_mul]
      congr 2
      omega
    obtain ⟨s, hs, hnum, hden⟩ := fraction_spec (2 + lowerReach m q) (q - 2) k
    have hlt := mul_lt_mul_of_pos_right hk hs
    rw [← hnum, ← hden, Nat.cast_lt] at hlt
    rw [hnat, fraction_den (4 * m) (2 + lowerReach m q)]
    omega
  unfold onGrid?
  generalize (fraction (4 * m - lowerReach m q) (q - 2) k).1 = low at *
  generalize (fraction (4 * m + 2) (q - 2) k).1 = high at *
  generalize fraction (4 * m) (q - 2) k = f at *
  obtain ⟨num, den⟩ := f
  simp only at *
  by_cases hup : (num / den + 1) * den < high ∨ m % 2 = 0 ∧ (num / den + 1) * den = high
  · split
    · rfl
    · split
      · rfl
      · rfl
  · -- the upper neighbour is out, so the lower one is in
    have hdown : low < num / den * den := by
      have hge : high ≤ (num / den + 1) * den := by
        by_contra hlt
        exact hup (.inl (by omega))
      rw [Nat.add_mul, Nat.one_mul] at hge
      omega
    split
    · rfl
    · rw [if_pos ⟨.inl hdown, .inr hup⟩]
      rfl

/-- Ten to the leading exponent, seventeen digits down, is finer than the interval. -/
theorem grid_fine {m : Nat} {q : Int} (hm : 0 < m) (h : IsDouble m q) :
    (10 : Rat) ^ (leadingExponent m q - 16) < (2 + lowerReach m q : Nat) * 2 ^ (q - 2) := by
  have hle := leadingExponent_le hm h
  have h16 : (10 : Rat) ^ (leadingExponent m q - 16) = 10 ^ leadingExponent m q / 10 ^ 16 := by
    rw [zpow_sub₀ (by norm_num)]
    norm_num
  have h4 : (2 : Rat) ^ q = 4 * 2 ^ (q - 2) := by
    rw [zpow_sub₀ (by norm_num)]
    norm_num
    ring
  have hu : (0 : Rat) < 2 ^ (q - 2) := by positivity
  rw [h4] at hle
  rw [h16, div_lt_iff₀ (by norm_num)]
  refine lt_of_le_of_lt hle ?_
  have hlt : (m : Rat) * 4 < (2 + lowerReach m q : Nat) * 10 ^ 16 := by
    have hnat : m * 4 < (2 + lowerReach m q) * 10 ^ 16 := by
      have := h.mantissa_lt
      rw [lowerReach_eq]
      split <;> omega
    exact_mod_cast hnat
  calc (m : Rat) * (4 * 2 ^ (q - 2)) = m * 4 * 2 ^ (q - 2) := by ring
    _ < (2 + lowerReach m q : Nat) * 10 ^ 16 * 2 ^ (q - 2) := mul_lt_mul_of_pos_right hlt hu
    _ = (2 + lowerReach m q : Nat) * 2 ^ (q - 2) * 10 ^ 16 := by ring

theorem stripZeros_value (d : Nat) (k : Int) :
    ((stripZeros d k).1 : Rat) * 10 ^ (stripZeros d k).2 = d * 10 ^ k := by
  fun_induction stripZeros d k with
  | case1 d k hd ih =>
    rw [ih, zpow_add₀ (by norm_num), zpow_one]
    have hten : ((d / 10 : Nat) : Rat) * 10 = d := by
      exact_mod_cast Nat.div_mul_cancel (Nat.dvd_of_mod_eq_zero hd.2)
    calc ((d / 10 : Nat) : Rat) * (10 ^ k * 10) = (d / 10 : Nat) * 10 * 10 ^ k := by ring
      _ = d * 10 ^ k := by rw [hten]
  | case2 d k hd => rfl

/-- The shortest decimal of a double reads back as it. -/
theorem readsAs_shortest (tie : Tie) {m : Nat} {q : Int} (hm : 0 < m) (h : IsDouble m q) :
    ReadsAs m q ((shortest tie m q).1 * 10 ^ (shortest tie m q).2) := by
  unfold shortest
  rw [if_neg (by omega)]
  simp only
  split
  · next d k hit =>
    rw [stripZeros_value]
    obtain ⟨i, -, hi⟩ := List.exists_of_findSome?_eq_some hit
    obtain ⟨n, hn, heq⟩ := Option.map_eq_some_iff.1 hi
    cases heq
    exact readsAs_of_onGrid? hm hn
  · next hnone =>
    have h16 := List.findSome?_eq_none_iff.1 hnone 16 (by simp)
    have hsome : (onGrid? tie m q (leadingExponent m q - 16)).isSome :=
      onGrid?_isSome hm (grid_fine hm h)
    rw [Option.map_eq_none_iff] at h16
    rw [show leadingExponent m q - 16 = leadingExponent m q - ((16 : Nat) : Int) from rfl, h16]
      at hsome
    cases hsome

/-! ## No double is nearer -/

/-- With both exponents counted from the smaller one, two doubles are whole numbers. -/
theorem pow_split {q q' : Int} (h : q ≤ q') :
    ∃ j : Nat, (q' = q + j) ∧ (2 : Rat) ^ q' = 2 ^ j * 2 ^ q := by
  obtain ⟨j, hj⟩ := Int.le.dest h
  refine ⟨j, hj.symm, ?_⟩
  rw [← hj, zpow_add₀ (by norm_num), zpow_natCast, mul_comm]

theorem quarter (q : Int) : (2 : Rat) ^ q = 4 * 2 ^ (q - 2) := by
  rw [zpow_sub₀ (by norm_num)]
  norm_num
  ring

theorem two_le_pow {j : Nat} (h : 0 < j) : 2 ≤ 2 ^ j := by
  obtain ⟨i, rfl⟩ := Nat.exists_eq_add_of_lt h
  rw [Nat.zero_add, Nat.pow_succ]
  have := Nat.one_le_two_pow (n := i)
  omega

/-- A double with a greater exponent than another's has a leading one. -/
theorem IsDouble.normal_of_lt {m m' : Nat} {q q' : Int} (h : IsDouble m q) (h' : IsDouble m' q')
    (hlt : q' < q) : 2 ^ 52 ≤ m := by
  rcases h.normal with hn | hn
  · exact hn
  · have := h'.least
    omega

/-- The next double is at least four quarters of a last place up. -/
theorem next_double {m m' : Nat} {q q' : Int} (h : IsDouble m q) (h' : IsDouble m' q')
    (hlt : (m : Rat) * 2 ^ q < m' * 2 ^ q') :
    (4 * m + 4 : Nat) * (2 : Rat) ^ (q - 2) ≤ m' * 2 ^ q' := by
  have hq : (0 : Rat) < 2 ^ q := by positivity
  rcases Int.lt_or_le q' q with hle | hle
  · exfalso
    obtain ⟨j, hj, hpow⟩ := pow_split hle.le
    have hq0 : (0 : Rat) < 2 ^ q' := by positivity
    rw [hpow, ← mul_assoc, mul_lt_mul_iff_left₀ hq0] at hlt
    have hnat : m * 2 ^ j < m' := by exact_mod_cast hlt
    have hm := h.normal_of_lt h' hle
    have hmul : m * 2 ≤ m * 2 ^ j := Nat.mul_le_mul_left m (two_le_pow (by omega))
    have := h'.mantissa_lt
    omega
  · obtain ⟨j, -, hpow⟩ := pow_split hle
    rw [hpow, ← mul_assoc, mul_lt_mul_iff_left₀ hq] at hlt
    rw [hpow, ← mul_assoc, show ((4 * m + 4 : Nat) : Rat) * 2 ^ (q - 2) = (m + 1) * 2 ^ q by
      rw [quarter q]; push_cast; ring]
    have hnat : m + 1 ≤ m' * 2 ^ j := by exact_mod_cast hlt
    exact mul_le_mul_of_nonneg_right (by exact_mod_cast hnat) hq.le

/-- The double before is down by twice what the interval reaches below. -/
theorem previous_double {m m' : Nat} {q q' : Int} (h : IsDouble m q) (h' : IsDouble m' q')
    (hlt : (m' : Rat) * 2 ^ q' < m * 2 ^ q) :
    m' * (2 : Rat) ^ q' ≤ (4 * m - 2 * lowerReach m q : Nat) * 2 ^ (q - 2) := by
  have hq : (0 : Rat) < 2 ^ q := by positivity
  have hreach := lowerReach_pos m q
  rcases Int.lt_or_le q' q with hle | hle
  · obtain ⟨j, hj, hpow⟩ := pow_split (show q' - 2 ≤ q - 2 by omega)
    have hnat : 4 * m' ≤ (4 * m - 2 * lowerReach m q) * 2 ^ j := by
      have hm := h.normal_of_lt h' hle
      have hreach' : 2 ^ 54 - 2 ≤ 4 * m - 2 * lowerReach m q := by
        rw [lowerReach_eq]
        have := h'.least
        split <;> omega
      have hmul : (2 ^ 54 - 2) * 2 ≤ (4 * m - 2 * lowerReach m q) * 2 ^ j :=
        Nat.mul_le_mul hreach' (two_le_pow (by omega))
      have := h'.mantissa_lt
      omega
    rw [hpow, ← mul_assoc, quarter q', ← mul_assoc, mul_comm (m' : Rat) 4]
    exact mul_le_mul_of_nonneg_right (by exact_mod_cast hnat) (by positivity)
  · obtain ⟨j, -, hpow⟩ := pow_split hle
    rw [hpow, ← mul_assoc, mul_lt_mul_iff_left₀ hq] at hlt
    have hnat : m' * 2 ^ j < m := by exact_mod_cast hlt
    rw [hpow, ← mul_assoc, quarter q, ← mul_assoc]
    exact mul_le_mul_of_nonneg_right (by exact_mod_cast (show m' * 2 ^ j * 4 ≤ _ by omega))
      (by positivity)

/-- Within half the way to its neighbours a rational is nearest to `v`, and as near to another
only at the very ends. -/
theorem abs_lt_of_gap {r v v' below above : Rat} (hb : v - below ≤ r) (ha : r ≤ v + above)
    (hle : below ≤ above) (h0 : 0 < below) (hgap : v + 2 * above ≤ v' ∨ v' ≤ v - 2 * below) :
    |r - v| < |r - v'| ∨ |r - v| = |r - v'| ∧ (r = v - below ∨ r = v + above) := by
  rcases hgap with hg | hg
  · rw [show |r - v'| = v' - r by rw [abs_sub_comm, abs_of_nonneg (by linarith)]]
    rcases le_or_gt v r with hr | hr
    · rw [abs_of_nonneg (by linarith)]
      rcases ha.eq_or_lt with he | hlt
      · rcases (show r - v ≤ v' - r by linarith).eq_or_lt with h | h
        · exact .inr ⟨h, .inr he⟩
        · exact .inl h
      · exact .inl (by linarith)
    · rw [abs_of_neg (by linarith)]
      exact .inl (by linarith)
  · rw [show |r - v'| = r - v' from abs_of_nonneg (by linarith)]
    rcases le_or_gt r v with hr | hr
    · rw [abs_of_nonpos (by linarith)]
      rcases hb.eq_or_lt with he | hlt
      · rcases (show -(r - v) ≤ r - v' by linarith).eq_or_lt with h | h
        · exact .inr ⟨h, .inl he.symm⟩
        · exact .inl h
      · exact .inl (by linarith)
    · rw [abs_of_pos (by linarith)]
      exact .inl (by linarith)

/-- A rational of the interval is nearest among the doubles of either sign. -/
theorem ReadsAs.nearest {m : Nat} {q : Int} {r : Rat} (hm : 0 < m) (h : IsDouble m q)
    (hr : ReadsAs m q r) (negative : Bool) {m' : Nat} {q' : Int} (h' : IsDouble m' q') :
    let v : Rat := m * 2 ^ q
    let v' := signed negative (m' * 2 ^ q')
    v' = v ∨ |r - v| < |r - v'| ∨ |r - v| = |r - v'| ∧ m % 2 = 0 := by
  intro v v'
  have hreach := lowerReach_pos m q
  have hu : (0 : Rat) < 2 ^ (q - 2) := by positivity
  set u : Rat := 2 ^ (q - 2) with hu_def
  have hv : v = 4 * m * u := by
    show (m : Rat) * 2 ^ q = 4 * m * u
    rw [quarter q]
    ring
  have hsub : ∀ a : Nat, a ≤ 4 * m → ((4 * m - a : Nat) : Rat) = 4 * m - a := by
    intro a ha
    rw [Nat.cast_sub ha]
    push_cast
    rfl
  have hlow : ((4 * m - lowerReach m q : Nat) : Rat) * u = v - lowerReach m q * u := by
    rw [hsub _ (by omega), hv]
    ring
  have hhigh : ((4 * m + 2 : Nat) : Rat) * u = v + 2 * u := by
    rw [hv]
    push_cast
    ring
  have hlow2 : ((4 * m - 2 * lowerReach m q : Nat) : Rat) * u = v - 2 * (lowerReach m q * u) := by
    rw [hsub _ (by omega), hv]
    push_cast
    ring
  have hreach2 : (lowerReach m q : Rat) * u ≤ 2 * u :=
    mul_le_mul_of_nonneg_right (by exact_mod_cast hreach.2) hu.le
  have hreach0 : 0 < (lowerReach m q : Rat) * u :=
    mul_pos (by exact_mod_cast hreach.1) hu
  have habove := hr.above
  have hbelow := hr.below
  rw [← hu_def, hlow] at habove
  rw [← hu_def, hhigh] at hbelow
  by_cases hne : v' = v
  · exact .inl hne
  · right
    have hgap : v + 2 * (2 * u) ≤ v' ∨ v' ≤ v - 2 * (lowerReach m q * u) := by
      have hpos : (0 : Rat) ≤ m' * 2 ^ q' := by positivity
      cases negative with
      | false =>
        rcases lt_or_gt_of_ne hne with hlt | hlt
        · exact .inr (hlow2 ▸ previous_double h h' hlt)
        · refine .inl (le_trans (le_of_eq ?_) (next_double h h' hlt))
          rw [hv]
          push_cast
          ring
      | true =>
        right
        have hneg : v' ≤ 0 := by
          show -((m' : Rat) * 2 ^ q') ≤ 0
          linarith
        have hge : (0 : Rat) ≤ (4 * m - 2 * lowerReach m q : Nat) * u := by positivity
        linarith
    have hb : v - lowerReach m q * u ≤ r := by
      rcases habove with h | ⟨-, h⟩ <;> linarith
    have ha : r ≤ v + 2 * u := by
      rcases hbelow with h | ⟨-, h⟩ <;> linarith
    rcases abs_lt_of_gap hb ha hreach2 hreach0 hgap with h | ⟨heq, hend⟩
    · exact .inl h
    · refine .inr ⟨heq, ?_⟩
      rcases hend with he | he
      · rcases habove with h | ⟨heven, -⟩
        · linarith
        · exact heven
      · rcases hbelow with h | ⟨heven, -⟩
        · linarith
        · exact heven

namespace Binary

theorem abs_signed_sub (negative negative' : Bool) (r v : Rat) :
    |signed negative r - signed negative' v| = |r - signed (negative' != negative) v| := by
  cases negative <;> cases negative' <;> simp only [signed, Bool.false_eq_true, if_false, if_true,
    bne_self_eq_false, Bool.bne_true, Bool.bne_false, Bool.not_false]
  · rw [← abs_neg]
    congr 1
    ring
  · rw [← abs_neg]
    congr 1
    ring

theorem signed_eq_signed {negative negative' : Bool} {v v' : Rat}
    (h : signed (negative' != negative) v' = v) : signed negative' v' = signed negative v := by
  subst h
  cases negative <;> cases negative' <;> simp [signed]

/-- The decimal that is written for a finite double reads back as that double. -/
theorem nearest_decimal {bits : Nat} (hb : (ofBits bits).isFinite = true) :
    (ofBits bits).Nearest (ofBits bits).decimal := by
  cases hd : ofBits bits with
  | nan => rw [hd] at hb; cases hb
  | infinite => rw [hd] at hb; cases hb
  | finite negative m q =>
    have h := isDouble_ofBits hd
    refine ⟨h, fun negative' m' q' h' => ?_⟩
    simp only [decimal]
    rw [abs_signed_sub, abs_signed_sub, bne_self_eq_false,
      show signed false ((m : Rat) * 2 ^ q) = m * 2 ^ q from rfl]
    rcases Nat.eq_zero_or_pos m with rfl | hm
    · by_cases hv : signed (negative' != negative) ((m' : Rat) * 2 ^ q') = ((0 : Nat) : Rat) * 2 ^ q
      · exact .inl (signed_eq_signed hv)
      · right
        left
        have hs : shortest .up 0 q = (0, 0) := rfl
        rw [hs]
        simp only [Nat.cast_zero, zero_mul, sub_self, abs_zero, zero_sub, abs_neg] at hv ⊢
        exact abs_pos.2 hv
    · exact (ReadsAs.nearest hm h (readsAs_shortest .up hm h) (negative' != negative) h').imp_left
        signed_eq_signed

end Binary

end SqlGateway.Decimal
