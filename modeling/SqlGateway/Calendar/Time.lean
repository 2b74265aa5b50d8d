import SqlGateway.Calendar.Date

/-!
# Times of day and points in time

A time of day has nanoseconds.  A leap second is second 59 with a thousand
million nanoseconds or more; it is written as second 60.

    ofNanoseconds n = the time n nanoseconds after midnight, days dropped
-/

namespace SqlGateway

def isClockTime (hour minute second nanos : Nat) : Bool :=
  decide (hour < 24) && decide (minute < 60) && decide (second < 60) &&
    (decide (nanos < 1_000_000_000) || second == 59 && decide (nanos < 2_000_000_000))

structure Time where
  hour : Nat
  minute : Nat
  second : Nat
  nanos : Nat
  valid : isClockTime hour minute second nanos = true := by decide
  deriving DecidableEq

namespace Time

def make? (hour minute second nanos : Nat) : Option Time :=
  if h : isClockTime hour minute second nanos = true then some ⟨hour, minute, second, nanos, h⟩
  else none

def midnight : Time := ⟨0, 0, 0, 0, by decide⟩

def nanosPerDay : Nat := 86_400_000_000_000

theorem isClockTime_ofNanoseconds (n : Nat) :
    isClockTime (n / 1_000_000_000 / 3600 % 24) (n / 1_000_000_000 / 60 % 60) (n / 1_000_000_000 % 60) (n % 1_000_000_000)
      = true := by
  simp only [isClockTime, Bool.and_eq_true, Bool.or_eq_true, decide_eq_true_eq]
  have h := Nat.mod_lt n (show 0 < 1_000_000_000 by decide)
  omega

def ofNanoseconds (n : Nat) : Time :=
  ⟨n / 1_000_000_000 / 3600 % 24, n / 1_000_000_000 / 60 % 60, n / 1_000_000_000 % 60, n % 1_000_000_000,
    isClockTime_ofNanoseconds n⟩

/-- The second as a clock shows it: 60 in a leap second. -/
def shownSecond (t : Time) : Nat :=
  t.second + t.nanos / 1_000_000_000

def text (t : Time) : String :=
  Text.padded 2 t.hour ++ ":" ++ Text.padded 2 t.minute ++ ":" ++ Text.padded 2 t.shownSecond

/-- Three, six or nine places, the fewest that are exact; nothing for a whole second. -/
def fractionText (nanos : Nat) : String :=
  if nanos = 0 then ""
  else if nanos % 1_000_000 = 0 then "." ++ Text.padded 3 (nanos / 1_000_000)
  else if nanos % 1_000 = 0 then "." ++ Text.padded 6 (nanos / 1_000)
  else "." ++ Text.padded 9 nanos

/-- The text with its fraction of a second. -/
def exactText (t : Time) : String :=
  t.text ++ fractionText (t.nanos % 1_000_000_000)

end Time

structure DateTime where
  date : Date
  time : Time
  deriving DecidableEq

namespace DateTime

def text (t : DateTime) : String :=
  t.date.text ++ " " ++ t.time.text

def exactText (t : DateTime) : String :=
  t.date.text ++ "T" ++ t.time.exactText

end DateTime

end SqlGateway
