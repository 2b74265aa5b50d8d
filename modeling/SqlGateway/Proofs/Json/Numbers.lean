import SqlGateway.Json.Parser
import SqlGateway.Proofs.Decimal.Arithmetic
import SqlGateway.Proofs.Keyed.Ordered

/-!
# Numbers of JSON texts

A number that is read from a text is a whole number of 64 bits, signed or not, or a
double that is neither an infinity nor NaN: the significand is far below the greatest
double, a power of ten that would make it too great is refused, and dividing by one
does not make it greater.

    parse? depth s = some j  →  Fits j
-/

namespace SqlGateway.Json

open SqlGateway.Decimal (Binary IsBelow IsGreat)

/-- A whole number of 64 bits, signed or not, or a double that is a number. -/
inductive Number.Fits : Number → Prop where
  | int {i : Int} (hleast : Decimal.leastInt64 ≤ i) (hgreatest : i ≤ Decimal.greatestUInt64) :
      Fits (.int i)
  | float {x : Float} (h : (Binary.ofFloat x).isFinite = true) : Fits (.float x)

/-- All numbers inside fit. -/
inductive Fits : Json → Prop where
  | null : Fits .null
  | bool (b : Bool) : Fits (.bool b)
  | number {n : Number} (h : n.Fits) : Fits (.number n)
  | string (s : String) : Fits (.string s)
  | array {items : List Json} (h : ∀ j ∈ items, Fits j) : Fits (.array items)
  | object {members : List (String × Json)} (h : ∀ m ∈ members, Fits m.2) : Fits (.object members)

/-! ## Numerals -/

namespace Numeral

theorem absorb_le {m : Nat} (h : m ≤ Decimal.greatestUInt64) (cs : List Char) :
    (absorb m cs).1 ≤ Decimal.greatestUInt64 := by
  induction cs generalizing m with
  | nil => exact h
  | cons c cs ih =>
    unfold absorb
    dsimp only
    split
    · next hnext => exact ih hnext
    · exact h

theorem isGreat_powerOfTen {n : Nat} (hlow : 1 ≤ n) (hhigh : n ≤ greatestPower) :
    IsGreat (powerOfTen n) :=
  Decimal.isGreat_ofScientific hlow hhigh

theorem isFinite_powerOfTen {n : Nat} (h : n ≤ greatestPower) :
    (powerOfTen n).isFinite = true := by
  rcases Nat.eq_zero_or_pos n with rfl | hpos
  · decide +kernel
  · exact (isGreat_powerOfTen hpos h).isFinite

/-- Dividing by powers of ten does not make a double greater. -/
theorem isBelow_divideDown {t : Int} (hlow : -1022 ≤ t) (hhigh : t ≤ 972) {f : Float} {n : Nat}
    (hf : IsBelow t f) (hn : 1 ≤ n) : IsBelow t (divideDown f n) := by
  induction f, n using divideDown.induct with
  | case1 f n h =>
    unfold divideDown
    rw [if_pos h]
    exact hf.div (isGreat_powerOfTen hn h) hlow hhigh
  | case2 f n h hzero =>
    unfold divideDown
    rw [if_neg h, if_pos hzero]
    exact hf
  | case3 f n h hzero ih =>
    unfold divideDown
    rw [if_neg h, if_neg hzero]
    have hgreatest := isGreat_powerOfTen (by decide) (le_refl greatestPower)
    exact ih (hf.div hgreatest hlow hhigh) (by omega)

theorem isFinite_scaled? {m : Nat} (hm : m ≤ Decimal.greatestUInt64) {x : Int} {f : Float}
    (h : scaled? m x = some f) : f.isFinite = true := by
  have hwhole := Decimal.isBelow_ofNat hm
  unfold scaled? at h
  dsimp only at h
  split at h
  · next n =>
    split at h
    · next hn =>
      split at h
      · cases h
      · next hinf =>
        cases h
        exact Decimal.isFinite_mul hwhole.isFinite (isFinite_powerOfTen hn) (by simpa using hinf)
    · split at h
      · cases h
        exact hwhole.isFinite
      · cases h
  · next n =>
    cases h
    exact (isBelow_divideDown (by decide) (by decide) hwhole (Nat.succ_pos n)).isFinite

theorem isFinite_withExponent? {m : Nat} (hm : m ≤ Decimal.greatestUInt64) {x : Int}
    {negative : Bool} {written : Nat} {f : Float}
    (h : withExponent? m x negative written = some f) : f.isFinite = true := by
  unfold withExponent? at h
  split at h
  · exact isFinite_scaled? hm h
  · split at h
    · cases h
      decide +kernel
    · cases h

theorem fits_signedFloat (negative : Bool) {f : Float} (h : f.isFinite = true) :
    (signedFloat negative f).Fits := by
  refine .float ?_
  rw [Decimal.isFinite_ofFloat]
  cases negative
  · exact h
  · exact Decimal.isFinite_neg h

theorem fits_finish? {negative : Bool} {m : Nat} (hm : m ≤ Decimal.greatestUInt64) {x : Int}
    {cs rest : List Char} {n : Number} (h : finish? negative m x cs = some (n, rest)) : n.Fits := by
  unfold finish? at h
  split at h
  · split at h
    · obtain ⟨⟨down, written, rest⟩, -, h⟩ := Option.bind_eq_some_iff.1 h
      obtain ⟨f, hf, h⟩ := Option.bind_eq_some_iff.1 h
      cases h
      exact fits_signedFloat negative (isFinite_withExponent? hm hf)
    · obtain ⟨f, hf, h⟩ := Option.bind_eq_some_iff.1 h
      cases h
      exact fits_signedFloat negative (isFinite_scaled? hm hf)
  · obtain ⟨f, hf, h⟩ := Option.bind_eq_some_iff.1 h
    cases h
    exact fits_signedFloat negative (isFinite_scaled? hm hf)

theorem fits_whole (negative : Bool) {m : Nat} (hm : m ≤ Decimal.greatestUInt64) :
    (whole negative m).Fits := by
  have hleast : Decimal.leastInt64 = -(Nat.pow 2 63 : Nat) := rfl
  unfold whole
  split
  · exact .int (by omega) (by omega)
  · split
    · exact fits_signedFloat true (Decimal.isBelow_ofNat hm).isFinite
    · exact .int (by omega) (by omega)

theorem fits_unsigned? {negative : Bool} {cs rest : List Char} {n : Number}
    (h : unsigned? negative cs = some (n, rest)) : n.Fits := by
  have hdigits := fun cs => absorb_le (Nat.zero_le Decimal.greatestUInt64) cs
  unfold unsigned? at h
  dsimp only at h
  split at h
  · cases h
  · split at h
    · split at h
      · cases h
      · exact fits_finish? (absorb_le (hdigits _) _) h
    · split at h
      · exact fits_finish? (hdigits _) h
      · cases h
        exact fits_whole negative (hdigits _)
    · split at h
      · exact fits_finish? (hdigits _) h
      · cases h
        exact fits_whole negative (hdigits _)

theorem fits_read? {cs rest : List Char} {n : Number} (h : read? cs = some (n, rest)) : n.Fits := by
  unfold read? at h
  split at h <;> exact fits_unsigned? h

end Numeral

/-! ## Values -/

theorem fits_ofMembers {members : List (String × Json)} (h : ∀ m ∈ members, m.2.Fits) :
    (ofMembers members).Fits :=
  .object (Keyed.forall_mem_ofList h)

/-- What the readers of values give with so much fuel. -/
structure ReadsFit (fuel : Nat) : Prop where
  value : ∀ {depth cs j rest}, value? fuel depth cs = some (j, rest) → j.Fits
  items : ∀ {depth cs items rest}, items? fuel depth cs = some (items, rest) →
    ∀ j ∈ items, j.Fits
  members : ∀ {depth cs members rest}, members? fuel depth cs = some (members, rest) →
    ∀ m ∈ members, m.2.Fits

theorem ReadsFit.zero : ReadsFit 0 where
  value h := nomatch h
  items h := nomatch h
  members h := nomatch h

section

variable {fuel depth : Nat} {cs rest : List Char}

theorem ReadsFit.value_succ (ih : ReadsFit fuel) {j : Json}
    (h : value? (fuel + 1) depth cs = some (j, rest)) : j.Fits := by
  unfold value? at h
  split at h
  · cases h
    exact .null
  · cases h
    exact .bool true
  · cases h
    exact .bool false
  · obtain ⟨⟨s, rest⟩, -, h⟩ := Option.map_eq_some_iff.1 h
    cases h
    exact .string s
  · split at h
    · cases h
    · split at h
      · cases h
        exact .array nofun
      · obtain ⟨⟨items, rest⟩, hitems, h⟩ := Option.map_eq_some_iff.1 h
        cases h
        exact .array (ih.items hitems)
  · split at h
    · cases h
    · split at h
      · cases h
        exact .object nofun
      · obtain ⟨⟨members, rest⟩, hmembers, h⟩ := Option.map_eq_some_iff.1 h
        cases h
        exact fits_ofMembers (ih.members hmembers)
  · obtain ⟨⟨n, rest⟩, hn, h⟩ := Option.map_eq_some_iff.1 h
    cases h
    exact .number (Numeral.fits_read? hn)

theorem ReadsFit.items_succ (ih : ReadsFit fuel) {items : List Json}
    (h : items? (fuel + 1) depth cs = some (items, rest)) : ∀ j ∈ items, j.Fits := by
  unfold items? at h
  obtain ⟨⟨item, rest⟩, hitem, h⟩ := Option.bind_eq_some_iff.1 h
  dsimp only at h
  split at h
  · cases h
    exact List.forall_mem_singleton.2 (ih.value hitem)
  · obtain ⟨⟨items, rest⟩, hitems, h⟩ := Option.bind_eq_some_iff.1 h
    cases h
    exact List.forall_mem_cons.2 ⟨ih.value hitem, ih.items hitems⟩
  · cases h

theorem ReadsFit.members_succ (ih : ReadsFit fuel) {members : List (String × Json)}
    (h : members? (fuel + 1) depth cs = some (members, rest)) : ∀ m ∈ members, m.2.Fits := by
  unfold members? at h
  split at h
  · obtain ⟨⟨name, rest⟩, -, h⟩ := Option.bind_eq_some_iff.1 h
    dsimp only at h
    split at h
    · obtain ⟨⟨item, rest⟩, hitem, h⟩ := Option.bind_eq_some_iff.1 h
      dsimp only at h
      split at h
      · cases h
        exact List.forall_mem_singleton.2 (ih.value hitem)
      · obtain ⟨⟨members, rest⟩, hmembers, h⟩ := Option.bind_eq_some_iff.1 h
        cases h
        exact List.forall_mem_cons.2 ⟨ih.value hitem, ih.members hmembers⟩
      · cases h
    · cases h
  · cases h

end

theorem readsFit (fuel : Nat) : ReadsFit fuel := by
  induction fuel with
  | zero => exact .zero
  | succ fuel ih => exact ⟨ih.value_succ, ih.items_succ, ih.members_succ⟩

/-- **What a text says fits.**  All numbers of a value that is read do. -/
theorem fits_parse? {depth : Nat} {s : String} {j : Json} (h : parse? depth s = some j) :
    j.Fits := by
  unfold parse? at h
  obtain ⟨⟨j, rest⟩, hvalue, h⟩ := Option.bind_eq_some_iff.1 h
  obtain ⟨-, -, h⟩ := Option.bind_eq_some_iff.1 h
  cases h
  exact (readsFit _).value hvalue

end SqlGateway.Json
