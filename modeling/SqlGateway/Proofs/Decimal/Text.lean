import SqlGateway.Proofs.Decimal.Distinct
import SqlGateway.Proofs.Sql.Number

/-!
# Numbers by their texts

A text of a number is read as digits, perhaps a point and more digits, and
perhaps an exponent.  Every layout of a double reads back as the decimal that it
lays out, so two doubles with one text are one double.

    reading (magnitudeChars layout n k) = n · 10 ^ k
-/

namespace SqlGateway.Decimal

open SqlGateway.Sql (magnitude)

/-! ## Algorithm -/

/-- The number of a text without a sign. -/
def reading (cs : List Char) : Rat :=
  match magnitude cs with
  | (m, 'e' :: '-' :: digits) => m * 10 ^ (-(ofDigits digits : Int))
  | (m, 'e' :: '+' :: digits) => m * 10 ^ (ofDigits digits : Int)
  | (m, 'e' :: digits) => m * 10 ^ (ofDigits digits : Int)
  | (m, _) => m

/-- The character that a text begins with, after a minus sign if there is one. -/
def opening? : List Char → Option Char
  | '-' :: cs => cs.head?
  | cs => cs.head?

/-! ## Whole numbers -/

theorem ofNat_inj {m n : Nat} (h : ofNat m = ofNat n) : m = n := by
  have hdigits : Nat.toDigits 10 m = Nat.toDigits 10 n := String.ofList_injective h
  rw [← Sql.ofDigits_toDigits m, hdigits, Sql.ofDigits_toDigits]

/-- No digit is a sign. -/
theorem ne_dash_of_isDigit {c : Char} (h : isDigit c = true) : c ≠ '-' := by
  rintro rfl
  cases h

theorem exists_toDigits (n : Nat) : ∃ c cs, Nat.toDigits 10 n = c :: cs ∧ isDigit c = true := by
  obtain ⟨c, cs, h⟩ := List.exists_cons_of_ne_nil (Nat.toDigits_ne_nil (n := n) (b := 10))
  refine ⟨c, cs, h, Sql.isDigit_toDigits n c ?_⟩
  rw [h]
  exact List.mem_cons_self

/-- The sign is told by the text, where what follows it does not begin with one. -/
theorem signChars_append_inj {negative negative' : Bool} {xs ys : List Char}
    (hx : xs.head? ≠ some '-') (hy : ys.head? ≠ some '-')
    (h : signChars negative ++ xs = signChars negative' ++ ys) : negative = negative' ∧ xs = ys := by
  cases negative with
  | false =>
    cases negative' with
    | false => exact ⟨rfl, h⟩
    | true =>
      have hxs : xs = '-' :: ys := h
      rw [hxs] at hx
      exact absurd rfl hx
  | true =>
    cases negative' with
    | false =>
      have hys : '-' :: xs = ys := h
      rw [← hys] at hy
      exact absurd rfl hy
    | true => exact ⟨rfl, (List.cons.inj h).2⟩

theorem toList_ofInt (i : Int) :
    (ofInt i).toList = signChars (decide (i < 0)) ++ Nat.toDigits 10 i.natAbs := by
  rw [Sql.ofInt_eq]
  simp [positionalChars]

theorem ofInt_inj {i j : Int} (h : ofInt i = ofInt j) : i = j := by
  have hhead : ∀ n : Nat, (Nat.toDigits 10 n).head? ≠ some '-' := by
    intro n
    obtain ⟨c, cs, hn, hc⟩ := exists_toDigits n
    rw [hn]
    exact fun heq => ne_dash_of_isDigit hc (Option.some.inj heq)
  have hchars := congrArg String.toList h
  rw [toList_ofInt, toList_ofInt] at hchars
  obtain ⟨hsign, hdigits⟩ := signChars_append_inj (hhead _) (hhead _) hchars
  have habs : i.natAbs = j.natAbs := ofNat_inj (congrArg String.ofList hdigits)
  rw [decide_eq_decide] at hsign
  omega

/-! ## Layouts -/

theorem isDigit_replicate_zero (n : Nat) : ∀ c ∈ List.replicate n '0', isDigit c = true := by
  intro c hc
  rw [List.eq_of_mem_replicate hc]
  rfl

theorem endsNumber_nil : Sql.EndsNumber [] := nofun

theorem endsNumber_exponent (cs : List Char) : Sql.EndsNumber ('e' :: cs) := by
  intro c hc
  cases hc
  exact ⟨rfl, by decide⟩

/-- A point and a zero after a whole number make no difference. -/
theorem magnitude_pointZero (pointZero : Bool) (n : Nat) (k : Int) :
    magnitude (positionalChars pointZero (Nat.toDigits 10 n) k) = ((n : Rat) * 10 ^ k, []) := by
  have hplain := Sql.magnitude_positionalChars n k [] endsNumber_nil
  rw [List.append_nil] at hplain
  cases pointZero with
  | false => exact hplain
  | true =>
    by_cases hk : 0 ≤ k
    · obtain ⟨m, rfl⟩ := Int.eq_ofNat_of_zero_le hk
      have hdigits : ∀ c ∈ Nat.toDigits 10 n ++ List.replicate m '0', isDigit c = true := by
        intro c hc
        rcases List.mem_append.1 hc with hc | hc
        · exact Sql.isDigit_toDigits n c hc
        · exact isDigit_replicate_zero m c hc
      have hpoint := Sql.magnitude_fraction _ ['0'] [] hdigits (isDigit_replicate_zero 1)
        endsNumber_nil
      have hzeros : Nat.toDigits 10 n ++ List.replicate m '0' ++ ['0']
          = Nat.toDigits 10 n ++ List.replicate (m + 1) '0' := by
        rw [List.append_assoc, List.replicate_succ']
      rw [hzeros, Sql.ofDigits_append_zeros, Sql.ofDigits_toDigits] at hpoint
      unfold positionalChars
      rw [if_pos hk, if_pos rfl]
      refine hpoint.trans ?_
      rw [zpow_natCast]
      push_cast
      rw [pow_succ, List.length_singleton, pow_one, ← mul_assoc]
      simp
    · have hsame : positionalChars true (Nat.toDigits 10 n) k
          = positionalChars false (Nat.toDigits 10 n) k := by
        unfold positionalChars
        rw [if_neg hk, if_neg hk]
      rw [hsame]
      exact hplain

theorem magnitude_scientificChars (plus : Bool) (n : Nat) (k : Int) :
    let e := k + (Nat.toDigits 10 n).length - 1
    magnitude (scientificChars plus (Nat.toDigits 10 n) k)
      = ((n : Rat) * 10 ^ (k - e), 'e' :: ((if e < 0 then ['-'] else if plus then ['+'] else [])
        ++ Nat.toDigits 10 e.natAbs)) := by
  intro e
  have hdigits := Sql.isDigit_toDigits n
  have hvalue := Sql.ofDigits_toDigits n
  have hplaces : k - e = -((Nat.toDigits 10 n).length - 1 : Int) := by
    show k - (k + (Nat.toDigits 10 n).length - 1) = _
    omega
  obtain ⟨d, rest, hn, -⟩ := exists_toDigits n
  unfold scientificChars
  rw [hplaces]
  generalize hexponent : (if k + (Nat.toDigits 10 n).length - 1 < 0 then ['-']
    else if plus then ['+'] else [])
      ++ Nat.toDigits 10 (k + (Nat.toDigits 10 n).length - 1).natAbs = exponent
  simp only [List.append_assoc, List.cons_append, hexponent]
  rw [hn] at hdigits hvalue ⊢
  cases rest with
  | nil =>
    have hwhole := Sql.magnitude_whole [d] ('e' :: exponent) hdigits (endsNumber_exponent exponent)
    rw [hvalue] at hwhole
    simpa using hwhole
  | cons d' rest =>
    obtain ⟨hd, hrest⟩ := List.forall_mem_cons.1 hdigits
    have hpoint := Sql.magnitude_fraction [d] (d' :: rest) ('e' :: exponent)
      (List.forall_mem_singleton.2 hd) hrest (endsNumber_exponent exponent)
    have hjoined : ofDigits ([d] ++ d' :: rest) = n := hvalue
    have hlength : ((d :: d' :: rest).length : Int) - 1 = (d' :: rest).length := by simp
    rw [hjoined] at hpoint
    refine hpoint.trans ?_
    rw [hlength, zpow_neg, zpow_natCast, div_eq_mul_inv]

/-- Whatever the layout, the number comes back. -/
theorem reading_magnitudeChars (layout : Layout) (n : Nat) (k : Int) :
    reading (magnitudeChars layout n k) = (n : Rat) * 10 ^ k := by
  unfold magnitudeChars
  simp only
  split
  · unfold reading
    rw [magnitude_pointZero]
  · have hten : (10 : Rat) ≠ 0 := by norm_num
    have hscientific := magnitude_scientificChars layout.exponentPlus n k
    simp only at hscientific
    generalize hexponent : k + ((Nat.toDigits 10 n).length : Int) - 1 = e at hscientific
    have hvalue : (n : Rat) * 10 ^ (k - e) * 10 ^ e = n * 10 ^ k := by
      rw [mul_assoc, ← zpow_add₀ hten, sub_add_cancel]
    have hdigits := Sql.ofDigits_toDigits e.natAbs
    unfold reading
    rw [hscientific]
    by_cases he : e < 0
    · rw [if_pos he]
      show _ * (10 : Rat) ^ (-(ofDigits (Nat.toDigits 10 e.natAbs) : Int)) = _
      rw [hdigits, show -(e.natAbs : Int) = e by omega, hvalue]
    · rw [if_neg he]
      have habs : (e.natAbs : Int) = e := by omega
      cases layout.exponentPlus with
      | true =>
        show _ * (10 : Rat) ^ (ofDigits (Nat.toDigits 10 e.natAbs) : Int) = _
        rw [hdigits, habs, hvalue]
      | false =>
        -- An exponent without a sign begins with a digit, which is no sign.
        obtain ⟨c, cs, hc, hdigit⟩ := exists_toDigits e.natAbs
        rw [hc] at hdigits
        rw [if_neg (by simp), List.nil_append, hc]
        split
        · next heq =>
          cases heq
          cases hdigit
        · next heq =>
          cases heq
          cases hdigit
        · next heq =>
          cases heq
          rw [hdigits, habs, hvalue]
        · next hnone heq =>
          cases heq
          exact absurd rfl (hnone _)

/-- What is laid out begins with a digit. -/
theorem exists_magnitudeChars (layout : Layout) (n : Nat) (k : Int) :
    ∃ c cs, magnitudeChars layout n k = c :: cs ∧ isDigit c = true := by
  obtain ⟨c, cs, hn, hc⟩ := exists_toDigits n
  unfold magnitudeChars
  rw [hn]
  simp only
  split
  · unfold positionalChars
    simp only
    split
    · exact ⟨c, _, rfl, hc⟩
    · split
      · exact ⟨c, _, rfl, hc⟩
      · exact ⟨'0', _, rfl, rfl⟩
  · unfold scientificChars
    cases cs with
    | nil => exact ⟨c, _, rfl, hc⟩
    | cons c' cs => exact ⟨c, _, rfl, hc⟩

/-! ## Doubles -/

namespace Binary

theorem chars_finite (layout : Layout) (negative : Bool) (m : Nat) (q : Int) :
    (finite negative m q).chars layout = signChars negative
      ++ magnitudeChars layout (shortest layout.tie m q).1 (shortest layout.tie m q).2 :=
  rfl

theorem opening?_finite (layout : Layout) (negative : Bool) (m : Nat) (q : Int) :
    ∃ c, opening? ((finite negative m q).chars layout) = some c ∧ isDigit c = true := by
  obtain ⟨c, cs, hmagnitude, hc⟩ :=
    exists_magnitudeChars layout (shortest layout.tie m q).1 (shortest layout.tie m q).2
  refine ⟨c, ?_, hc⟩
  rw [chars_finite, hmagnitude]
  cases negative with
  | true => rfl
  | false =>
    show opening? (c :: cs) = some c
    unfold opening?
    split
    · next heq =>
      cases heq
      cases hc
    · rfl

theorem opening?_infinite (layout : Layout) (negative : Bool) :
    opening? ((infinite negative).chars layout) = some 'i' := by
  cases negative <;> rfl

theorem finite_inj (layout : Layout) {negative negative' : Bool} {m m' : Nat} {q q' : Int}
    (hd : IsDouble m q) (hd' : IsDouble m' q')
    (h : (finite negative m q).chars layout = (finite negative' m' q').chars layout) :
    finite negative m q = finite negative' m' q' := by
  have hhead : ∀ d k, (magnitudeChars layout d k).head? ≠ some '-' := by
    intro d k
    obtain ⟨c, cs, hmagnitude, hc⟩ := exists_magnitudeChars layout d k
    rw [hmagnitude]
    exact fun heq => ne_dash_of_isDigit hc (Option.some.inj heq)
  obtain ⟨rfl, hchars⟩ := signChars_append_inj (hhead _ _) (hhead _ _) h
  have hwritten := congrArg reading hchars
  rw [reading_magnitudeChars, reading_magnitudeChars] at hwritten
  obtain ⟨rfl, rfl⟩ := written_inj layout.tie hd hd' hwritten
  rfl

/-- In every layout a text is that of one double. -/
theorem chars_inj (layout : Layout) {bits bits' : Nat}
    (h : (ofBits bits).chars layout = (ofBits bits').chars layout) :
    ofBits bits = ofBits bits' := by
  have hopening := congrArg opening? h
  cases hb : ofBits bits with
  | nan =>
    cases hb' : ofBits bits' with
    | nan => rfl
    | infinite negative' =>
      rw [hb, hb', opening?_infinite] at hopening
      cases hopening
    | finite negative' m' q' =>
      obtain ⟨c, hc, hdigit⟩ := opening?_finite layout negative' m' q'
      rw [hb, hb', hc] at hopening
      cases hopening
      cases hdigit
  | infinite negative =>
    cases hb' : ofBits bits' with
    | nan =>
      rw [hb, hb', opening?_infinite] at hopening
      cases hopening
    | infinite negative' =>
      rw [hb, hb'] at h
      obtain ⟨rfl, -⟩ := signChars_append_inj (by decide) (by decide) h
      rfl
    | finite negative' m' q' =>
      obtain ⟨c, hc, hdigit⟩ := opening?_finite layout negative' m' q'
      rw [hb, hb', hc, opening?_infinite] at hopening
      cases hopening
      cases hdigit
  | finite negative m q =>
    obtain ⟨c, hc, hdigit⟩ := opening?_finite layout negative m q
    cases hb' : ofBits bits' with
    | nan =>
      rw [hb, hb', hc] at hopening
      cases hopening
      cases hdigit
    | infinite negative' =>
      rw [hb, hb', hc, opening?_infinite] at hopening
      cases hopening
      cases hdigit
    | finite negative' m' q' =>
      rw [hb, hb'] at h
      exact finite_inj layout (isDouble_ofBits hb) (isDouble_ofBits hb') h

end Binary

/-- **A text of one double.**  Two doubles that are written alike are one, or both are NaN. -/
theorem write_inj (layout : Layout) {x y : Float} (hnan : Binary.ofFloat x ≠ .nan)
    (h : write layout x = write layout y) : x = y :=
  Binary.ofFloat_inj hnan (Binary.chars_inj layout (String.ofList_injective h))

end SqlGateway.Decimal
