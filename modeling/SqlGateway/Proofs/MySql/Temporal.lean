import SqlGateway.Server.MySql
import SqlGateway.Proofs.Calendar.Text

/-!
# Temporal values of a MySQL server

What a date or a duration of the server keeps on the way into a row.  A day of
the calendar keeps its clock, and a day that is in no calendar loses it.  A time
of day is kept whole; of any other duration the microseconds are lost, and what
of its hours does not fit into 32 bits.

    a.value = b.value    iff   a and b are alike
    hours of the text    =     (24 * days + hour) % 2 ^ 32
-/

namespace SqlGateway

namespace MySql

/-! ## Algorithm -/

/-- A clock that shows a time of day, without leap seconds. -/
structure Clock.InRange (c : Clock) : Prop where
  hour : c.hour < 24
  minute : c.minute < 60
  second : c.second < 60
  micros : c.micros < 1_000_000

namespace Cell

/-- A date or a duration as a server sends it. -/
inductive IsTemporal : Cell → Prop where
  | date (year : Nat) {month day : Nat} {c : Clock} (hm : month ≤ 12) (hd : day ≤ 31)
      (hc : c.InRange) : IsTemporal (.date year month day c)
  | time (negative : Bool) (days : UInt32) {c : Clock} (hc : c.InRange) :
      IsTemporal (.time negative days c)

/-- No time of day: it goes backwards or takes days. -/
def IsDuration (negative : Bool) (days : UInt32) : Prop :=
  negative = true ∨ days ≠ 0

/-- All the hours of a duration. -/
def totalHours (days : UInt32) (c : Clock) : Nat :=
  24 * days.toNat + c.hour

/-- What two temporal values that become one have in common. -/
inductive Alike : Cell → Cell → Prop where
  | day (year month day : Nat) {c c' : Clock} (h : isCalendarDay year month day = true → c = c') :
      Alike (.date year month day c) (.date year month day c')
  | timeOfDay (c : Clock) : Alike (.time false 0 c) (.time false 0 c)
  | duration {negative : Bool} {days days' : UInt32} {c c' : Clock}
      (h : IsDuration negative days) (h' : IsDuration negative days')
      (hours : totalHours days c ≡ totalHours days' c' [MOD 2 ^ 32])
      (minute : c.minute = c'.minute) (second : c.second = c'.second) :
      Alike (.time negative days c) (.time negative days' c')

/-- Nothing of the value is lost. -/
inductive IsKept : Cell → Prop where
  | day {year month day : Nat} (c : Clock) (h : isCalendarDay year month day = true) :
      IsKept (.date year month day c)
  | midnight (year month day : Nat) {c : Clock} (h : c.isMidnight = true) :
      IsKept (.date year month day c)
  | timeOfDay (c : Clock) : IsKept (.time false 0 c)
  | wholeSeconds (negative : Bool) {days : UInt32} {c : Clock} (hc : c.micros = 0)
      (h : totalHours days c < 2 ^ 32) : IsKept (.time negative days c)

/-- The hours that a reader takes from the text of a duration. -/
def shownHours (s : String) : Nat :=
  Decimal.ofDigits ((s.toList.dropWhile (· == '-')).takeWhile Decimal.isDigit)

end Cell

/-! ## Clocks -/

namespace Clock

theorem eq_of_isMidnight {c c' : Clock} (h : c.isMidnight = true) (h' : c'.isMidnight = true) :
    c = c' := by
  cases c
  cases c'
  simp_all [isMidnight]

theorem InRange.isClockTime {c : Clock} (h : c.InRange) :
    isClockTime c.hour c.minute c.second (c.micros * 1000) = true := by
  have hmicros := h.micros
  simp only [SqlGateway.isClockTime, Bool.and_eq_true, Bool.or_eq_true, decide_eq_true_eq]
  exact ⟨⟨⟨h.hour, h.minute⟩, h.second⟩, .inl (by omega)⟩

/-- The time of day that the clock shows. -/
def InRange.time {c : Clock} (h : c.InRange) : Time :=
  ⟨c.hour, c.minute, c.second, c.micros * 1000, h.isClockTime⟩

theorem InRange.time?_eq {c : Clock} (h : c.InRange) : c.time? = some h.time :=
  dif_pos h.isClockTime

theorem InRange.time_inj {c c' : Clock} {h : c.InRange} {h' : c'.InRange} (heq : h.time = h'.time) :
    c = c' := by
  obtain ⟨hour, minute, second, micros⟩ := c
  obtain ⟨hour', minute', second', micros'⟩ := c'
  simp only [InRange.time, Time.mk.injEq] at heq
  obtain ⟨rfl, rfl, rfl, hmicros⟩ := heq
  obtain rfl : micros = micros' := by omega
  rfl

end Clock

namespace Cell

/-! ## Dates -/

theorem toList_dayText (year month day : Nat) : (dayText year month day).toList
    = ((Text.padded 4 year).toList ++ '-' :: (Text.padded 2 month).toList)
      ++ '-' :: (Text.padded 2 day).toList := by
  simp [dayText]

theorem dayText_inj {y m d y' m' d' : Nat} (hm : m ≤ 12) (hd : d ≤ 31) (hm' : m' ≤ 12)
    (hd' : d' ≤ 31) (h : dayText y m d = dayText y' m' d') : y = y' ∧ m = m' ∧ d = d' := by
  have hlist := congrArg String.toList h
  rw [toList_dayText, toList_dayText] at hlist
  obtain ⟨hrest, hday⟩ := Text.append_two_inj (by omega) (by omega) hlist
  obtain ⟨hyear, hmonth⟩ := Text.append_two_inj (by omega) (by omega) hrest
  exact ⟨Text.padded_inj hyear, hmonth, hday⟩

theorem value_day {y m d : Nat} {c : Clock} (hc : c.InRange) (h : isCalendarDay y m d = true) :
    (date y m d c).value = if c.isMidnight then .date ⟨y, m, d, h⟩
      else .datetime ⟨⟨y, m, d, h⟩, hc.time⟩ := by
  simp only [value, Date.make?, dif_pos h, hc.time?_eq]

theorem value_noDay {y m d : Nat} {c : Clock} (h : ¬ isCalendarDay y m d = true) :
    (date y m d c).value = .text (dayText y m d) := by
  simp only [value, Date.make?, dif_neg h]

/-- Two days of the calendar become one value only when they are the same to the microsecond. -/
theorem value_day_inj {y m d y' m' d' : Nat} {c c' : Clock} (hc : c.InRange) (hc' : c'.InRange)
    (h : isCalendarDay y m d = true) (h' : isCalendarDay y' m' d' = true)
    (heq : (date y m d c).value = (date y' m' d' c').value) :
    date y m d c = date y' m' d' c' := by
  rw [value_day hc h, value_day hc' h'] at heq
  split at heq
  · next hmid =>
    split at heq
    · next hmid' =>
      simp only [Value.date.injEq, Date.mk.injEq, Int.natCast_inj] at heq
      obtain ⟨rfl, rfl, rfl⟩ := heq
      rw [Clock.eq_of_isMidnight hmid hmid']
    · cases heq
  · split at heq
    · cases heq
    · simp only [Value.datetime.injEq, DateTime.mk.injEq, Date.mk.injEq, Int.natCast_inj] at heq
      obtain ⟨⟨rfl, rfl, rfl⟩, htime⟩ := heq
      rw [Clock.InRange.time_inj htime]

theorem alike_of_value_date {y m d y' m' d' : Nat} {c c' : Clock} (hm : m ≤ 12) (hd : d ≤ 31)
    (hc : c.InRange) (hm' : m' ≤ 12) (hd' : d' ≤ 31) (hc' : c'.InRange)
    (heq : (date y m d c).value = (date y' m' d' c').value) :
    (date y m d c).Alike (date y' m' d' c') := by
  by_cases h : isCalendarDay y m d = true
  · by_cases h' : isCalendarDay y' m' d' = true
    · rw [← value_day_inj hc hc' h h' heq]
      exact .day y m d fun _ => rfl
    · -- A day of the calendar never becomes a text, and any other day does.
      rw [value_day hc h, value_noDay h'] at heq
      split at heq
      all_goals cases heq
  · by_cases h' : isCalendarDay y' m' d' = true
    · rw [value_noDay h, value_day hc' h'] at heq
      split at heq
      all_goals cases heq
    · rw [value_noDay h, value_noDay h'] at heq
      obtain ⟨rfl, rfl, rfl⟩ := dayText_inj hm hd hm' hd' (Value.text.inj heq)
      exact .day y m d fun hday => absurd hday h

/-! ## Durations -/

theorem value_timeOfDay {c : Clock} (hc : c.InRange) : (time false 0 c).value = .time hc.time := by
  simp only [value, timeOfDay?, hc.time?_eq]
  rfl

theorem value_duration {n : Bool} {days : UInt32} {c : Clock} (h : IsDuration n days) :
    (time n days c).value = .text (durationText n days c) := by
  have hnone : timeOfDay? n days c = none := by
    unfold timeOfDay?
    rw [if_neg]
    rcases h with rfl | h
    · simp
    · simp [h]
  simp only [value, hnone]

theorem timeOfDay_or_isDuration (n : Bool) (days : UInt32) :
    (n = false ∧ days = 0) ∨ IsDuration n days := by
  unfold IsDuration
  cases n with
  | false => exact (eq_or_ne days 0).imp (fun h => ⟨rfl, h⟩) .inr
  | true => exact .inr (.inl rfl)

theorem hours_eq {days : UInt32} {c : Clock} (hc : c.InRange) :
    hours days c = totalHours days c % 2 ^ 32 := by
  have hhour := hc.hour
  unfold hours totalHours
  simp only [UInt32.toNat_add, UInt32.toNat_mul, UInt32.toNat_ofNat']
  simp
  omega

theorem toList_durationText (n : Bool) (days : UInt32) (c : Clock) :
    (durationText n days c).toList
      = ((Decimal.signChars n ++ (Text.padded 2 (hours days c)).toList)
        ++ ':' :: (Text.padded 2 c.minute).toList) ++ ':' :: (Text.padded 2 c.second).toList := by
  cases n <;> simp [durationText, Decimal.signChars]

/-- The sign of a padded number, and what is behind it. -/
theorem signed_padded (n : Bool) (h : Nat) (rest : List Char) :
    ((Decimal.signChars n ++ (Text.padded 2 h).toList ++ rest).head? = some '-' ↔ n = true) ∧
    (Decimal.signChars n ++ (Text.padded 2 h).toList ++ rest).dropWhile (· == '-')
      = (Text.padded 2 h).toList ++ rest := by
  obtain ⟨d, ds, hpadded, hdigit⟩ := Text.exists_padded_eq_cons 2 h
  have hd : d ≠ '-' := by
    rintro rfl
    cases hdigit
  rw [hpadded]
  cases n with
  | false => simp [Decimal.signChars, hd]
  | true => simp [Decimal.signChars, hd]

theorem durationText_eq_iff {n n' : Bool} {days days' : UInt32} {c c' : Clock} (hc : c.InRange)
    (hc' : c'.InRange) : durationText n days c = durationText n' days' c' ↔
      n = n' ∧ hours days c = hours days' c' ∧ c.minute = c'.minute ∧ c.second = c'.second := by
  have hbounds := hc.minute
  have hbounds' := hc'.minute
  have hsecond := hc.second
  have hsecond' := hc'.second
  rw [← String.toList_inj, toList_durationText, toList_durationText]
  constructor
  · intro h
    obtain ⟨hrest, hseconds⟩ := Text.append_two_inj (by omega) (by omega) h
    obtain ⟨hfront, hminutes⟩ := Text.append_two_inj (by omega) (by omega) hrest
    -- What is left has no separator of its own: the sign is told by its first character.
    have hsign : n = n' := by
      have hhead := (signed_padded n (hours days c) []).1
      rw [List.append_nil, hfront, ← List.append_nil (_ ++ _), (signed_padded n' _ []).1] at hhead
      exact (Bool.eq_iff_iff.2 hhead).symm
    subst hsign
    exact ⟨rfl, Text.padded_inj (List.append_cancel_left hfront), hminutes, hseconds⟩
  · rintro ⟨rfl, hhours, hminutes, hseconds⟩
    rw [hhours, hminutes, hseconds]

/-- What a reader makes of a duration's text. -/
theorem read_durationText (n : Bool) (days : UInt32) (c : Clock) :
    ((durationText n days c).toList.head? = some '-' ↔ n = true) ∧
    shownHours (durationText n days c) = hours days c := by
  have htext := toList_durationText n days c
  rw [List.append_assoc] at htext
  obtain ⟨hsign, hdrop⟩ := signed_padded n (hours days c)
    (':' :: (Text.padded 2 c.minute).toList ++ ':' :: (Text.padded 2 c.second).toList)
  refine ⟨by rw [htext, hsign], ?_⟩
  unfold shownHours
  rw [htext, hdrop, List.takeWhile_append_of_pos (Text.isDigit_padded 2 _), List.cons_append,
    List.takeWhile_cons_of_neg (by decide), List.append_nil, Text.ofDigits_padded]

/-- The texts of a day and of a duration have different marks before the last two digits. -/
theorem dayText_ne_durationText {y m d : Nat} {n : Bool} {days : UInt32} {c : Clock} (hd : d ≤ 31)
    (hc : c.InRange) : dayText y m d ≠ durationText n days c := by
  intro h
  have hsecond := hc.second
  have hlist := congrArg String.toList h
  rw [toList_dayText, toList_durationText] at hlist
  obtain ⟨-, htail⟩ := List.append_inj' hlist (by
    rw [List.length_cons, List.length_cons, Text.length_padded_two (by omega),
      Text.length_padded_two (by omega)])
  cases (List.cons.inj htail).1

theorem alike_of_value_time {n n' : Bool} {days days' : UInt32} {c c' : Clock} (hc : c.InRange)
    (hc' : c'.InRange) (heq : (time n days c).value = (time n' days' c').value) :
    (time n days c).Alike (time n' days' c') := by
  rcases timeOfDay_or_isDuration n days with ⟨rfl, rfl⟩ | h
  · rcases timeOfDay_or_isDuration n' days' with ⟨rfl, rfl⟩ | h'
    · rw [value_timeOfDay hc, value_timeOfDay hc'] at heq
      rw [Clock.InRange.time_inj (Value.time.inj heq)]
      exact .timeOfDay c'
    · rw [value_timeOfDay hc, value_duration h'] at heq
      cases heq
  · rcases timeOfDay_or_isDuration n' days' with ⟨rfl, rfl⟩ | h'
    · rw [value_duration h, value_timeOfDay hc'] at heq
      cases heq
    · rw [value_duration h, value_duration h'] at heq
      obtain ⟨rfl, hhours, hminute, hsecond⟩ :=
        (durationText_eq_iff hc hc').1 (Value.text.inj heq)
      rw [hours_eq hc, hours_eq hc'] at hhours
      exact .duration h h' hhours hminute hsecond

/-! ## Both -/

theorem value_date_ne_time {y m d : Nat} {c : Clock} {n : Bool} {days : UInt32} {c' : Clock}
    (hd : d ≤ 31) (hc : c.InRange) (hc' : c'.InRange) :
    (date y m d c).value ≠ (time n days c').value := by
  intro heq
  by_cases h : isCalendarDay y m d = true
  · rw [value_day hc h] at heq
    rcases timeOfDay_or_isDuration n days with ⟨rfl, rfl⟩ | h'
    · rw [value_timeOfDay hc'] at heq
      split at heq
      all_goals cases heq
    · rw [value_duration h'] at heq
      split at heq
      all_goals cases heq
  · rw [value_noDay h] at heq
    rcases timeOfDay_or_isDuration n days with ⟨rfl, rfl⟩ | h'
    · rw [value_timeOfDay hc'] at heq
      cases heq
    · rw [value_duration h'] at heq
      exact dayText_ne_durationText hd hc' (Value.text.inj heq)

theorem Alike.value_eq {a b : Cell} (h : a.Alike b) (ha : a.IsTemporal) (hb : b.IsTemporal) :
    a.value = b.value := by
  cases h with
  | @day y m d c c' h =>
    by_cases hday : isCalendarDay y m d = true
    · rw [h hday]
    · rw [value_noDay hday, value_noDay hday]
  | timeOfDay c => rfl
  | duration h h' hours minute second =>
    cases ha with
    | time n days hc =>
      cases hb with
      | time _ days' hc' =>
        rw [value_duration h, value_duration h', (durationText_eq_iff hc hc').2]
        rw [hours_eq hc, hours_eq hc']
        exact ⟨rfl, hours, minute, second⟩

theorem IsKept.of_isDuration {n : Bool} {days : UInt32} {c : Clock} (h : (time n days c).IsKept)
    (hduration : IsDuration n days) : c.micros = 0 ∧ totalHours days c < 2 ^ 32 := by
  cases h with
  | timeOfDay _ => exact absurd hduration (by simp [IsDuration])
  | wholeSeconds _ hmicros hhours => exact ⟨hmicros, hhours⟩

/-- Days and hours of the day are told by all the hours. -/
theorem eq_of_totalHours_eq {n : Bool} {days days' : UInt32} {c c' : Clock} (hc : c.InRange)
    (hc' : c'.InRange) (htotal : totalHours days c = totalHours days' c')
    (hminute : c.minute = c'.minute) (hsecond : c.second = c'.second)
    (hmicros : c.micros = c'.micros) : time n days c = time n days' c' := by
  have hhour := hc.hour
  have hhour' := hc'.hour
  unfold totalHours at htotal
  obtain ⟨hdays, hhours⟩ : days.toNat = days'.toNat ∧ c.hour = c'.hour := by omega
  obtain rfl := UInt32.toNat_inj.1 hdays
  obtain rfl : c = c' := by
    cases c
    cases c'
    cases hhours
    cases hminute
    cases hsecond
    cases hmicros
    rfl
  rfl

theorem Alike.eq {a b : Cell} (h : a.Alike b) (ha : a.IsTemporal) (hb : b.IsTemporal)
    (hkept : a.IsKept) (hkept' : b.IsKept) : a = b := by
  cases h with
  | day y m d h =>
    cases hkept with
    | day c hday => rw [h hday]
    | midnight _ _ _ hmid =>
      cases hkept' with
      | day c hday => rw [h hday]
      | midnight _ _ _ hmid' => rw [Clock.eq_of_isMidnight hmid hmid']
  | timeOfDay c => rfl
  | duration h h' hours minute second =>
    obtain ⟨hmicros, hfits⟩ := hkept.of_isDuration h
    obtain ⟨hmicros', hfits'⟩ := hkept'.of_isDuration h'
    cases ha with
    | time _ _ hc =>
      cases hb with
      | time _ _ hc' =>
        exact eq_of_totalHours_eq hc hc' (hours.eq_of_lt_of_lt hfits hfits') minute second
          (hmicros.trans hmicros'.symm)

/-- **What becomes of temporal values.**  Two of them become one value exactly when they are alike,
and different values do so only when one of them lost something.  The text of a duration has its
sign and its hours up to 32 bits, so it has the hours themselves exactly when they fit. -/
theorem value_eq_iff_alike {a b : Cell} (ha : a.IsTemporal) (hb : b.IsTemporal) :
    (a.value = b.value ↔ a.Alike b) ∧
    (a.IsKept → b.IsKept → a.value = b.value → a = b) ∧
    ∀ n days c, a = .time n days c → IsDuration n days → ∃ s, a.value = .text s ∧
      (s.toList.head? = some '-' ↔ n = true) ∧
      shownHours s = totalHours days c % 2 ^ 32 ∧
      (shownHours s = totalHours days c ↔ totalHours days c < 2 ^ 32) := by
  have hiff : a.value = b.value ↔ a.Alike b := by
    refine ⟨fun heq => ?_, fun h => h.value_eq ha hb⟩
    cases ha with
    | date y hm hd hc =>
      cases hb with
      | date y' hm' hd' hc' => exact alike_of_value_date hm hd hc hm' hd' hc' heq
      | time n days hc' => exact absurd heq (value_date_ne_time hd hc hc')
    | time n days hc =>
      cases hb with
      | date y hm hd hc' => exact absurd heq.symm (value_date_ne_time hd hc' hc)
      | time n' days' hc' => exact alike_of_value_time hc hc' heq
  refine ⟨hiff, fun hkept hkept' heq => (hiff.1 heq).eq ha hb hkept hkept', ?_⟩
  rintro n days c rfl hduration
  cases ha with
  | time _ _ hc =>
    obtain ⟨hsign, hhours⟩ := read_durationText n days c
    rw [hours_eq hc] at hhours
    refine ⟨_, value_duration hduration, hsign, hhours, ?_⟩
    rw [hhours]
    omega

/-- One and two microseconds back are one value, and 178956972 days are one day and eight hours. -/
theorem value_eq_iff_alike_lost :
    let one : Cell := .time true 0 ⟨0, 0, 0, 1⟩
    let two : Cell := .time true 0 ⟨0, 0, 0, 2⟩
    let long : Cell := .time false 178956972 ⟨0, 0, 0, 0⟩
    let short : Cell := .time false 1 ⟨8, 0, 0, 0⟩
    one ≠ two ∧ one.value = two.value ∧ long ≠ short ∧ long.value = short.value ∧
      ∃ s, long.value = .text s ∧ shownHours s = 32 ∧ shownHours s ≠ 24 * 178956972 := by
  intro one two long short
  have hone : one.IsTemporal := .time true 0 ⟨by decide, by decide, by decide, by decide⟩
  have htwo : two.IsTemporal := .time true 0 ⟨by decide, by decide, by decide, by decide⟩
  have hlong : long.IsTemporal := .time false _ ⟨by decide, by decide, by decide, by decide⟩
  have hshort : short.IsTemporal := .time false 1 ⟨by decide, by decide, by decide, by decide⟩
  obtain ⟨hlost, -, -⟩ := value_eq_iff_alike hone htwo
  obtain ⟨hwrapped, -, htext⟩ := value_eq_iff_alike hlong hshort
  obtain ⟨s, hs, -, hhours, -⟩ := htext false _ _ rfl (.inr (by decide))
  have hhours : shownHours s = 32 := hhours
  refine ⟨?_, hlost.2 (.duration (.inl rfl) (.inl rfl) rfl rfl rfl), ?_,
    hwrapped.2 (.duration (.inr (by decide)) (.inr (by decide)) rfl rfl rfl),
    s, hs, hhours, by omega⟩
  · simp [one, two]
  · simp [long, short]

end Cell

end MySql

end SqlGateway
