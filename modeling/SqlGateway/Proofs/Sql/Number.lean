import SqlGateway.Proofs.Decimal.Nearest
import SqlGateway.Proofs.Sql.Token

/-!
# Numbers in query texts

Integers and doubles are written as plain decimals: a sign, digits, and perhaps
a point and more digits.  Such a text reads back as the number it was written
for, whatever delimiter follows it.

    next? d (ofInt i ++ rest) = (.number i, rest)
    next? d (write .plain x ++ rest) = (.number (ofFloat x).decimal, rest)
-/

namespace SqlGateway.Sql

open SqlGateway.Decimal (Binary isDigit ofDigits positionalChars signChars signed)

/-! ## Digits -/

theorem isDigit_toDigits (n : Nat) : ∀ c ∈ Nat.toDigits 10 n, isDigit c = true := by
  intro c hc
  have h := Nat.isDigit_of_mem_toDigits (by decide) (by decide) hc
  simp only [Char.isDigit, Bool.and_eq_true, decide_eq_true_eq] at h
  simp only [isDigit, Bool.and_eq_true, decide_eq_true_eq]
  exact ⟨h.1, h.2⟩

theorem ofDigits_eq (cs : List Char) : ofDigits cs = Nat.ofDigitChars 10 cs 0 := by
  rw [Nat.ofDigitChars_eq_foldl]
  rfl

theorem ofDigits_toDigits (n : Nat) : ofDigits (Nat.toDigits 10 n) = n := by
  rw [ofDigits_eq]
  exact Nat.ofDigitChars_toDigits (by decide) (by decide)

theorem ofDigits_append_zeros (cs : List Char) (n : Nat) :
    ofDigits (cs ++ List.replicate n '0') = ofDigits cs * 10 ^ n := by
  rw [ofDigits_eq, ofDigits_eq, Nat.ofDigitChars_append, Nat.ofDigitChars_replicate_zero,
    Nat.mul_comm]

theorem ofDigits_zeros_append (cs : List Char) (n : Nat) :
    ofDigits (List.replicate n '0' ++ cs) = ofDigits cs := by
  rw [ofDigits_eq, ofDigits_eq, Nat.ofDigitChars_append, Nat.ofDigitChars_replicate_zero,
    Nat.mul_zero]

/-! ## Decimals -/

/-- What can follow a decimal: neither a digit nor a point. -/
def EndsNumber (rest : List Char) : Prop :=
  ∀ c ∈ rest.head?, isDigit c = false ∧ c ≠ '.'

theorem Delimited.endsNumber {rest : List Char} (h : Delimited rest) : EndsNumber rest := by
  intro c hc
  rcases h c hc with rfl | rfl | rfl <;> exact ⟨by decide, by decide⟩

theorem magnitude_whole (xs rest : List Char) (hx : ∀ c ∈ xs, isDigit c = true)
    (hr : EndsNumber rest) : magnitude (xs ++ rest) = ((ofDigits xs : Rat), rest) := by
  obtain ⟨ht, hd⟩ := takeWhile_append_of_head hx fun c hc => (hr c hc).1
  unfold magnitude
  rw [ht, hd]
  split
  · next after => exact absurd rfl (hr '.' rfl).2
  · rfl

theorem magnitude_fraction (xs ys rest : List Char) (hx : ∀ c ∈ xs, isDigit c = true)
    (hy : ∀ c ∈ ys, isDigit c = true) (hr : EndsNumber rest) :
    magnitude (xs ++ '.' :: (ys ++ rest))
      = ((ofDigits (xs ++ ys) : Rat) / 10 ^ ys.length, rest) := by
  have hpoint : ∀ c ∈ ('.' :: (ys ++ rest)).head?, isDigit c = false := by
    intro c hc
    cases hc
    decide
  obtain ⟨ht, hd⟩ := takeWhile_append_of_head hx hpoint
  obtain ⟨ht', hd'⟩ := takeWhile_append_of_head hy fun c hc => (hr c hc).1
  unfold magnitude
  rw [ht, hd]
  simp only [ht', hd']

/-- The number `n · 10 ^ k` comes back, on whichever side of the digits the point stands. -/
theorem magnitude_positionalChars (n : Nat) (k : Int) (rest : List Char) (hr : EndsNumber rest) :
    magnitude (positionalChars false (Nat.toDigits 10 n) k ++ rest) = ((n : Rat) * 10 ^ k, rest) := by
  have hds := isDigit_toDigits n
  have hval := ofDigits_toDigits n
  have hpos : 0 < (Nat.toDigits 10 n).length := Nat.length_toDigits_pos
  generalize Nat.toDigits 10 n = ds at hds hval hpos
  have hz : ∀ m, ∀ c ∈ List.replicate m '0', isDigit c = true := by
    intro m c hc
    rw [List.eq_of_mem_replicate hc]
    decide
  unfold positionalChars
  simp only [Bool.false_eq_true, if_false, List.append_nil]
  split
  · next hk =>
    rw [magnitude_whole _ _ (by
        intro c hc
        rcases List.mem_append.1 hc with hc | hc
        · exact hds c hc
        · exact hz _ c hc) hr, ofDigits_append_zeros, hval]
    obtain ⟨m, rfl⟩ := Int.eq_ofNat_of_zero_le hk
    simp
  · next hk =>
    obtain ⟨m, hm⟩ : ∃ m : Nat, k = -(m : Int) := ⟨k.natAbs, by omega⟩
    subst hm
    split
    · next he =>
      rw [List.append_assoc, List.cons_append,
        magnitude_fraction _ _ _ (fun c hc => hds c (List.mem_of_mem_take hc))
          (fun c hc => hds c (List.mem_of_mem_drop hc)) hr, List.take_append_drop, hval]
      rw [List.length_drop, show ds.length - ((-(m : Int) + ds.length - 1).toNat + 1) = m by omega,
        zpow_neg, zpow_natCast, div_eq_mul_inv]
    · next he =>
      obtain ⟨j, hj⟩ : ∃ j : Nat, m = j + ds.length := ⟨m - ds.length, by omega⟩
      rw [show (-(-(m : Int) + ds.length - 1) - 1).toNat = j by omega]
      have hy : ∀ c ∈ List.replicate j '0' ++ ds, isDigit c = true := by
        intro c hc
        rcases List.mem_append.1 hc with hc | hc
        · exact hz _ c hc
        · exact hds c hc
      have key := magnitude_fraction ['0'] (List.replicate j '0' ++ ds) rest (hz 1) hy hr
      have hzeros : ['0'] ++ (List.replicate j '0' ++ ds) = List.replicate (j + 1) '0' ++ ds := by
        rw [List.replicate_succ]
        rfl
      rw [hzeros, ofDigits_zeros_append, hval, List.length_append, List.length_replicate, ← hj]
        at key
      rw [zpow_neg, zpow_natCast, ← div_eq_mul_inv, ← key]
      simp [List.append_assoc]

/-! ## Tokens -/

/-- Characters that make up a written number, of which the first shows that it is one. -/
structure Numeral (xs : List Char) : Prop where
  starts : startsNumber xs = true
  chars : ∀ c ∈ xs, isDigit c = true ∨ c = '-' ∨ c = '.'

theorem Numeral.startsNumber_append {xs : List Char} (h : Numeral xs) (rest : List Char) :
    startsNumber (xs ++ rest) = true := by
  have hs := h.starts
  match xs with
  | [] => simp [startsNumber] at hs
  | [c] =>
    by_cases hc : c = '-'
    · subst hc
      simp [startsNumber, isDigit] at hs
    · cases rest <;> simpa [startsNumber, hc] using hs
  | c :: e :: xs =>
    by_cases hc : c = '-'
    · subst hc
      simpa [startsNumber] using hs
    · simpa [startsNumber, hc] using hs

theorem Numeral.ne_hex {xs rest : List Char} (h : Numeral xs) (hd : Delimited rest)
    (tail : List Char) : xs ++ rest ≠ '0' :: 'x' :: tail := by
  intro he
  match xs with
  | [] => exact absurd h.starts (by simp [startsNumber])
  | [c] =>
    have hr : rest = 'x' :: tail := by simpa using (List.cons.inj he).2
    rcases hd 'x' (by rw [hr]; rfl) with h | h | h <;> exact absurd h (by decide)
  | c :: e :: xs =>
    have hx : e = 'x' := (List.cons.inj (List.cons.inj he).2).1
    rcases h.chars e (by simp) with h | h | h
    · rw [hx] at h
      exact absurd h (by decide)
    · exact absurd (hx.symm.trans h) (by decide)
    · exact absurd (hx.symm.trans h) (by decide)

theorem numeric?_of_ne_hex (d : Dialect) (cs : List Char) (h : ∀ tail, cs ≠ '0' :: 'x' :: tail) :
    numeric? d cs = some (.number (number cs).1, (number cs).2) := by
  unfold numeric?
  split
  · next tail => exact absurd rfl (h tail)
  · rfl

/-- No sign, quote, mark or blank is a digit. -/
theorem number_start (c : Char) (h : isDigit c = true ∨ c = '-') :
    c ≠ '\x27' ∧ c ≠ '\x22' ∧ c ≠ '\x60' ∧ isMark c = false ∧ c.isWhitespace = false := by
  rcases h with h | rfl
  · simp only [isDigit, Bool.and_eq_true, decide_eq_true_eq] at h
    have hne : ∀ e : Char, e.toNat < 48 ∨ 57 < e.toNat → c ≠ e := by
      rintro e he rfl
      omega
    have h1 := hne '\x27' (by decide)
    have h2 := hne '\x22' (by decide)
    have h3 := hne '\x60' (by decide)
    simp [isMark, Char.isWhitespace, h1, h2, h3, hne]
  · decide

theorem next?_numeral (d : Dialect) (xs rest : List Char) (h : Numeral xs) (hd : Delimited rest) :
    next? d (xs ++ rest) = some (.number (number (xs ++ rest)).1, (number (xs ++ rest)).2) := by
  have hs := h.startsNumber_append rest
  have hne := h.ne_hex hd
  cases xs with
  | nil => exact absurd h.starts (by simp [startsNumber])
  | cons c xs =>
    have hc : isDigit c = true ∨ c = '-' := by
      rcases h.chars c (by simp) with hc | hc | hc
      · exact .inl hc
      · exact .inr hc
      · have := h.starts
        subst hc
        cases xs <;> simp [startsNumber, isDigit] at this
    obtain ⟨h1, h2, h3, h4, h5⟩ := number_start c hc
    have hq : c ≠ nameQuote d := by cases d <;> assumption
    rw [List.cons_append] at hs hne ⊢
    rw [next?, skipBlanks, List.dropWhile_cons_of_neg (by simp [h5]), lexeme?, if_neg h1, if_neg hq,
      h4, if_neg (by simp), if_pos hs]
    exact numeric?_of_ne_hex d _ hne

theorem positionalChars_chars (n : Nat) (k : Int) :
    (∃ c cs, positionalChars false (Nat.toDigits 10 n) k = c :: cs ∧ isDigit c = true) ∧
      ∀ c ∈ positionalChars false (Nat.toDigits 10 n) k, isDigit c = true ∨ c = '.' := by
  have hds := isDigit_toDigits n
  have hne : Nat.toDigits 10 n ≠ [] := Nat.toDigits_ne_nil
  generalize Nat.toDigits 10 n = ds at hds hne
  obtain ⟨c, cs, rfl⟩ := List.exists_cons_of_ne_nil hne
  have hz : isDigit '0' = true := by decide
  have hc := hds c (by simp)
  unfold positionalChars
  simp only [Bool.false_eq_true, if_false, List.append_nil]
  split
  · refine ⟨⟨c, _, rfl, hc⟩, fun e he => ?_⟩
    rcases List.mem_append.1 he with he | he
    · exact .inl (hds e he)
    · rw [List.eq_of_mem_replicate he]
      exact .inl hz
  · split
    · refine ⟨⟨c, _, rfl, hc⟩, fun e he => ?_⟩
      rcases List.mem_append.1 he with he | he
      · exact .inl (hds e (List.mem_of_mem_take he))
      · rcases List.mem_cons.1 he with he | he
        · exact .inr he
        · exact .inl (hds e (List.mem_of_mem_drop he))
    · refine ⟨⟨'0', _, rfl, hz⟩, fun e he => ?_⟩
      rcases List.mem_append.1 he with he | he
      · rcases List.mem_cons.1 he with he | he
        · exact .inl (he ▸ hz)
        · rcases List.mem_cons.1 he with he | he
          · exact .inr he
          · rw [List.eq_of_mem_replicate he]
            exact .inl hz
      · exact .inl (hds e he)

theorem next?_signed (d : Dialect) (negative : Bool) (n : Nat) (k : Int) (rest : List Char)
    (hd : Delimited rest) :
    next? d (signChars negative ++ positionalChars false (Nat.toDigits 10 n) k ++ rest)
      = some (.number (signed negative (n * 10 ^ k)), rest) := by
  obtain ⟨⟨c, cs, hp, hc⟩, hch⟩ := positionalChars_chars n k
  have hm := magnitude_positionalChars n k rest hd.endsNumber
  rw [hp] at hch hm ⊢
  rw [List.cons_append] at hm
  have hdash : c ≠ '-' := by
    rintro rfl
    exact absurd hc (by decide)
  cases negative with
  | false =>
    have hnum : Numeral (c :: cs) := by
      refine ⟨?_, fun e he => (hch e he).imp_right .inr⟩
      simp [startsNumber, hdash, hc]
    rw [signChars, if_neg (by simp), List.nil_append, next?_numeral d _ rest hnum hd]
    simp [number, hdash, hm, signed]
  | true =>
    have hnum : Numeral ('-' :: c :: cs) := by
      refine ⟨by simpa [startsNumber] using hc, fun e he => ?_⟩
      rcases List.mem_cons.1 he with he | he
      · exact .inr (.inl he)
      · exact (hch e he).imp_right .inr
    rw [signChars, if_pos rfl, List.singleton_append, next?_numeral d _ rest hnum hd]
    simp only [number, List.cons_append, signed, if_true, hm]

theorem ofInt_eq (i : Int) :
    (Decimal.ofInt i).toList
      = signChars (decide (i < 0)) ++ positionalChars false (Nat.toDigits 10 i.natAbs) 0 := by
  unfold Decimal.ofInt
  by_cases h : i < 0
  · simp [h, Decimal.ofNat, signChars, positionalChars]
  · simp [h, Decimal.ofNat, signChars, positionalChars]

theorem next?_ofInt (d : Dialect) (i : Int) (rest : List Char) (hd : Delimited rest) :
    next? d ((Decimal.ofInt i).toList ++ rest) = some (.number i, rest) := by
  rw [ofInt_eq, next?_signed d _ _ _ rest hd]
  have hi : signed (decide (i < 0)) ((i.natAbs : Rat) * 10 ^ (0 : Int)) = i := by
    rw [zpow_zero, mul_one, signed]
    have habs : ((i.natAbs : Int) : Rat) = ((i.natAbs : Nat) : Rat) := Int.cast_natCast _
    split
    · next h =>
      have : (i.natAbs : Int) = -i := Int.ofNat_natAbs_of_nonpos (by simp at h; omega)
      rw [← habs, this, Int.cast_neg, neg_neg]
    · next h =>
      have : (i.natAbs : Int) = i := Int.natAbs_of_nonneg (by simp at h; omega)
      rw [← habs, this]
  rw [hi]

theorem next?_ofNat (d : Dialect) (n : Nat) (rest : List Char) (hd : Delimited rest) :
    next? d ((Decimal.ofNat n).toList ++ rest) = some (.number n, rest) := by
  have h := next?_ofInt d n rest hd
  rwa [Decimal.ofInt, if_neg (by omega), Int.natAbs_natCast, Int.cast_natCast] at h

theorem next?_write (d : Dialect) (x : Float) (rest : List Char)
    (hx : (Binary.ofFloat x).isFinite = true) (hd : Delimited rest) :
    next? d ((Decimal.write .plain x).toList ++ rest)
      = some (.number (Binary.ofFloat x).decimal, rest) := by
  rw [Decimal.write, String.toList_ofList]
  cases hb : Binary.ofFloat x with
  | nan => rw [hb] at hx; cases hx
  | infinite => rw [hb] at hx; cases hx
  | finite negative m q => exact next?_signed d negative _ _ rest hd

end SqlGateway.Sql
