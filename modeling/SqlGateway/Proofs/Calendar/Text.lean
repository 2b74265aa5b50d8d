import SqlGateway.Calendar.Time
import SqlGateway.Proofs.Decimal.Text

/-!
# Dates and times by their texts

Months, days, hours, minutes and seconds take two digits each, so a text falls
into its parts from the right.  A date is told by its text, and a time to the
second that a clock shows.

    text (date) = text (date')    iff   the dates are the same
    text (time) = text (time')    iff   hour, shown minute and shown second are the same
-/

namespace SqlGateway

/-! ## Algorithm -/

/-- A clock shows the same at both times. -/
structure Time.SameSecond (t t' : Time) : Prop where
  hour : t.hour = t'.hour
  minute : t.minute = t'.minute
  second : t.shownSecond = t'.shownSecond

/-- No part of a second is left over. -/
def Time.IsWhole (t : Time) : Prop :=
  t.nanos % 1_000_000_000 = 0

/-! ## Padded numbers -/

namespace Text

theorem toList_padded (width n : Nat) : (padded width n).toList
    = List.replicate (width - (Nat.toDigits 10 n).length) '0' ++ Nat.toDigits 10 n := by
  simp [padded]

theorem ofDigits_padded (width n : Nat) : Decimal.ofDigits (padded width n).toList = n := by
  rw [toList_padded, Sql.ofDigits_zeros_append, Sql.ofDigits_toDigits]

theorem padded_inj {width m n : Nat} (h : (padded width m).toList = (padded width n).toList) :
    m = n := by
  rw [← ofDigits_padded width m, h, ofDigits_padded width n]

theorem isDigit_padded (width n : Nat) : ∀ c ∈ (padded width n).toList,
    Decimal.isDigit c = true := by
  intro c hc
  rw [toList_padded] at hc
  rcases List.mem_append.1 hc with hzero | hc
  · exact Decimal.isDigit_replicate_zero _ c hzero
  · exact Sql.isDigit_toDigits n c hc

theorem exists_padded_eq_cons (width n : Nat) :
    ∃ d ds, (padded width n).toList = d :: ds ∧ Decimal.isDigit d = true := by
  have hdigit := isDigit_padded width n
  cases hlist : (padded width n).toList with
  | nil =>
    rw [toList_padded, List.append_eq_nil_iff] at hlist
    exact absurd hlist.2 Nat.toDigits_ne_nil
  | cons d ds => exact ⟨d, ds, rfl, hdigit d (by rw [hlist]; exact List.mem_cons_self)⟩

/-- A padded number has no sign. -/
theorem head_padded (width n : Nat) : (padded width n).toList.head? ≠ some '-' ∧
    (padded width n).toList.head? ≠ some '+' := by
  constructor
  · intro h
    cases isDigit_padded width n '-' (List.mem_of_mem_head? h)
  · intro h
    cases isDigit_padded width n '+' (List.mem_of_mem_head? h)

theorem length_padded_two {n : Nat} (h : n < 100) : (padded 2 n).toList.length = 2 := by
  have hlength : (Nat.toDigits 10 n).length ≤ 2 := by
    rw [Nat.length_toDigits_le_iff (by decide) (by decide)]
    exact h
  rw [toList_padded, List.length_append, List.length_replicate]
  omega

/-- Two digits and the mark before them come off a text. -/
theorem append_two_inj {xs ys : List Char} {mark : Char} {m n : Nat} (hm : m < 100) (hn : n < 100)
    (h : xs ++ mark :: (padded 2 m).toList = ys ++ mark :: (padded 2 n).toList) :
    xs = ys ∧ m = n := by
  obtain ⟨hxs, htail⟩ := List.append_inj' h (by
    rw [List.length_cons, List.length_cons, length_padded_two hm, length_padded_two hn])
  exact ⟨hxs, padded_inj (List.cons.inj htail).2⟩

end Text

/-! ## Dates -/

namespace Date

theorem yearText_inj {y y' : Int} (h : (yearText y).toList = (yearText y').toList) : y = y' := by
  have hhead := Text.head_padded 4 y.natAbs
  have hhead' := Text.head_padded 4 y'.natAbs
  have hcons : ∀ {c : Char} {xs ys : List Char}, xs.head? ≠ some c → xs ≠ c :: ys := by
    rintro c xs ys hne rfl
    exact hne rfl
  unfold yearText at h
  simp only [apply_ite String.toList, String.toList_append] at h
  -- The sign tells which of the three forms a year has.
  split at h
  · split at h
    · have habs := Text.padded_inj (List.cons.inj h).2
      omega
    · split at h
      · cases (List.cons.inj h).1
      · exact absurd h.symm (hcons hhead'.1)
  · split at h
    · split at h
      · cases (List.cons.inj h).1
      · split at h
        · have habs := Text.padded_inj (List.cons.inj h).2
          omega
        · exact absurd h.symm (hcons hhead'.2)
    · split at h
      · exact absurd h (hcons hhead.1)
      · split at h
        · exact absurd h (hcons hhead.2)
        · have habs := Text.padded_inj h
          omega

theorem bounds (d : Date) : d.month < 100 ∧ d.day < 100 := by
  have hvalid := d.valid
  simp only [isCalendarDay, Bool.and_eq_true, decide_eq_true_eq] at hvalid
  have hday : daysInMonth d.year d.month ≤ 31 := by
    unfold daysInMonth
    split
    · split <;> omega
    all_goals omega
  omega

theorem toList_text (d : Date) : d.text.toList
    = ((yearText d.year).toList ++ '-' :: (Text.padded 2 d.month).toList)
      ++ '-' :: (Text.padded 2 d.day).toList := by
  simp [text]

/-- A text of one date. -/
theorem text_inj {d d' : Date} (h : d.text.toList = d'.text.toList) : d = d' := by
  rw [toList_text, toList_text] at h
  obtain ⟨hrest, hday⟩ := Text.append_two_inj d.bounds.2 d'.bounds.2 h
  obtain ⟨hyear, hmonth⟩ := Text.append_two_inj d.bounds.1 d'.bounds.1 hrest
  have hyear := yearText_inj hyear
  obtain ⟨year, month, day, valid⟩ := d
  obtain ⟨year', month', day', valid'⟩ := d'
  cases hyear
  cases hmonth
  cases hday
  rfl

end Date

/-! ## Times -/

namespace Time

theorem bounds (t : Time) : t.hour < 24 ∧ t.minute < 60 ∧ t.second < 60 ∧
    (t.nanos < 1_000_000_000 ∨ t.second = 59 ∧ t.nanos < 2_000_000_000) := by
  have hvalid := t.valid
  simp only [isClockTime, Bool.and_eq_true, Bool.or_eq_true, decide_eq_true_eq,
    beq_iff_eq] at hvalid
  exact ⟨hvalid.1.1.1, hvalid.1.1.2, hvalid.1.2, hvalid.2⟩

theorem shownSecond_lt (t : Time) : t.shownSecond < 100 := by
  have hbounds := t.bounds
  unfold shownSecond
  omega

theorem toList_text (t : Time) : t.text.toList
    = ((Text.padded 2 t.hour).toList ++ ':' :: (Text.padded 2 t.minute).toList)
      ++ ':' :: (Text.padded 2 t.shownSecond).toList := by
  simp [text]

theorem length_text (t : Time) : t.text.toList.length = 8 := by
  have hbounds := t.bounds
  have hsecond := Text.length_padded_two t.shownSecond_lt
  have hminute := Text.length_padded_two (show t.minute < 100 by omega)
  have hhour := Text.length_padded_two (show t.hour < 100 by omega)
  rw [toList_text]
  simp only [List.length_append, List.length_cons, hsecond, hminute, hhour]

/-- The text of a time is what a clock shows. -/
theorem text_eq_iff (t t' : Time) : t.text.toList = t'.text.toList ↔ t.SameSecond t' := by
  have hbounds := t.bounds
  have hbounds' := t'.bounds
  rw [toList_text, toList_text]
  constructor
  · intro h
    obtain ⟨hrest, hsecond⟩ := Text.append_two_inj t.shownSecond_lt t'.shownSecond_lt h
    obtain ⟨hhour, hminute⟩ := Text.append_two_inj (by omega) (by omega) hrest
    exact ⟨Text.padded_inj hhour, hminute, hsecond⟩
  · rintro ⟨hhour, hminute, hsecond⟩
    rw [hhour, hminute, hsecond]

/-- Of whole seconds a clock shows all; a leap second shows as a second 60. -/
theorem SameSecond.eq {t t' : Time} (h : t.SameSecond t') (ht : t.IsWhole) (ht' : t'.IsWhole) :
    t = t' := by
  have hbounds := t.bounds
  have hbounds' := t'.bounds
  obtain ⟨hhour, hminute, hsecond⟩ := h
  obtain ⟨hour, minute, second, nanos, valid⟩ := t
  obtain ⟨hour', minute', second', nanos', valid'⟩ := t'
  simp only [shownSecond, IsWhole] at *
  obtain ⟨rfl, rfl⟩ : second = second' ∧ nanos = nanos' := by omega
  cases hhour
  cases hminute
  rfl

end Time

/-! ## Both -/

theorem DateTime.text_eq_iff (t t' : DateTime) :
    t.text.toList = t'.text.toList ↔ t.date = t'.date ∧ t.time.SameSecond t'.time := by
  have htext : ∀ t : DateTime, t.text.toList = t.date.text.toList ++ ' ' :: t.time.text.toList := by
    intro t
    simp [text]
  rw [htext, htext]
  constructor
  · intro h
    obtain ⟨hdate, htime⟩ := List.append_inj' h (by
      rw [List.length_cons, List.length_cons, Time.length_text, Time.length_text])
    exact ⟨Date.text_inj hdate, (Time.text_eq_iff _ _).1 (List.cons.inj htime).2⟩
  · rintro ⟨hdate, htime⟩
    rw [hdate, (Time.text_eq_iff _ _).2 htime]

end SqlGateway
