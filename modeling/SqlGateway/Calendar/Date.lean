import SqlGateway.Text.Pieces

/-!
# Calendar dates

Dates of the Gregorian calendar, extended to all years from -262143 to 262142.
Day numbers count from 1970-01-01.

    ofDays? (toDays d) = some d
-/

namespace SqlGateway

def isLeapYear (year : Int) : Bool :=
  year % 4 == 0 && (year % 100 != 0 || year % 400 == 0)

def daysInMonth (year : Int) (month : Nat) : Nat :=
  match month with
  | 2 => if isLeapYear year then 29 else 28
  | 4 | 6 | 9 | 11 => 30
  | _ => 31

def isCalendarDay (year : Int) (month day : Nat) : Bool :=
  decide (-262143 ≤ year) && decide (year ≤ 262142) &&
    decide (1 ≤ month) && decide (month ≤ 12) && decide (1 ≤ day) &&
    decide (day ≤ daysInMonth year month)

structure Date where
  year : Int
  month : Nat
  day : Nat
  valid : isCalendarDay year month day = true := by decide
  deriving DecidableEq

namespace Date

def make? (year : Int) (month day : Nat) : Option Date :=
  if h : isCalendarDay year month day = true then some ⟨year, month, day, h⟩ else none

/-- Days before the first of March of `year`, whose January and February count to the year before. -/
def daysToMarch (year : Int) : Int :=
  365 * year + year / 4 - year / 100 + year / 400

/-- Days from the first of March to the first of the month `m` months later, `m ≤ 11`. -/
def daysFromMarch (m : Nat) : Nat :=
  (153 * m + 2) / 5

/-- Day number of 1970-01-01 in days counted by `daysToMarch`. -/
def epoch : Int := 719468

def toDays (d : Date) : Int :=
  let early := d.month ≤ 2
  let year := if early then d.year - 1 else d.year
  let m := if early then d.month + 9 else d.month - 3
  daysToMarch year + (daysFromMarch m + d.day : Nat) - 1 - epoch

/-- The date of a day number, if its year is in range. -/
def ofDays? (days : Int) : Option Date :=
  let n := days + epoch
  let era := n / 146097
  let dayOfEra := (n % 146097).toNat
  let yearOfEra := (dayOfEra - dayOfEra / 1460 + dayOfEra / 36524 - dayOfEra / 146096) / 365
  let dayOfYear := dayOfEra - (365 * yearOfEra + yearOfEra / 4 - yearOfEra / 100)
  let m := (5 * dayOfYear + 2) / 153
  let day := dayOfYear - daysFromMarch m + 1
  let month := if m < 10 then m + 3 else m - 9
  let year := era * 400 + yearOfEra + (if month ≤ 2 then 1 else 0)
  make? year month day

/-- At least four digits; a sign for years before 0 and after 9999. -/
def yearText (year : Int) : String :=
  if year < 0 then "-" ++ Text.padded 4 year.natAbs
  else if 9999 < year then "+" ++ Text.padded 4 year.natAbs
  else Text.padded 4 year.natAbs

def text (d : Date) : String :=
  yearText d.year ++ "-" ++ Text.padded 2 d.month ++ "-" ++ Text.padded 2 d.day

end Date

end SqlGateway
