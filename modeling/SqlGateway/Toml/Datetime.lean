import SqlGateway.Calendar.Time

/-!
# Dates and times in TOML

A date, a time, both, or both with an offset from UTC in minutes.  The text is
the normal form: a `T` between date and time, no zeros at the end of a
fraction, and `Z` for an offset written so.

    text ⟨some d, some t, some o⟩ = d ++ "T" ++ t ++ o
-/

namespace SqlGateway.Toml

/-- A time of day; second 60 is allowed. -/
structure ClockTime where
  hour : Nat
  minute : Nat
  second : Nat
  nanos : Nat
  deriving DecidableEq

inductive Offset where
  | zulu
  | minutes (m : Int)
  deriving DecidableEq

inductive Datetime where
  | date (d : Date)
  | time (t : ClockTime)
  | both (d : Date) (t : ClockTime) (offset : Option Offset)
  deriving DecidableEq

/-- The digits of a fraction of a second, the zeros at the end left out. -/
def fractionDigits (nanos : Nat) : List Char :=
  ((Text.padded 9 nanos).toList.reverse.dropWhile (· == '0')).reverse

def ClockTime.text (t : ClockTime) : String :=
  Text.padded 2 t.hour ++ ":" ++ Text.padded 2 t.minute ++ ":" ++ Text.padded 2 t.second
    ++ (if t.nanos = 0 then "" else "." ++ .ofList (fractionDigits t.nanos))

def Offset.text : Offset → String
  | .zulu => "Z"
  | .minutes m =>
    (if m < 0 then "-" else "+") ++ Text.padded 2 (m.natAbs / 60) ++ ":"
      ++ Text.padded 2 (m.natAbs % 60)

def Datetime.text : Datetime → String
  | .date d => d.text
  | .time t => t.text
  | .both d t offset =>
    d.text ++ "T" ++ t.text ++ (match offset with | some o => o.text | none => "")

end SqlGateway.Toml
