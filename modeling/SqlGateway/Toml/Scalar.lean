import SqlGateway.Decimal.Reading
import SqlGateway.Text.Hex
import SqlGateway.Toml.Basic

/-!
# TOML numbers, dates and times

Digits may have single underscores between them.  Whole numbers have 64 bits.
A fraction of a second counts to the nanosecond; further digits are dropped.

    scalar? cs = the longest of date, double and whole number that cs starts with
-/

namespace SqlGateway.Toml

open SqlGateway.Decimal (isDigit ofDigits)

/-- Digits after the first, each perhaps with an underscore before it; and what follows. -/
def moreDigits (p : Char → Bool) : List Char → List Char × List Char
  | [] => ([], [])
  | '_' :: c :: rest =>
    if p c then
      let (ds, rest) := moreDigits p rest
      (c :: ds, rest)
    else ([], '_' :: c :: rest)
  | c :: rest =>
    if p c then
      let (ds, rest) := moreDigits p rest
      (c :: ds, rest)
    else ([], c :: rest)

/-- At least one digit. -/
def digits? (p : Char → Bool) : List Char → Option (List Char × List Char)
  | c :: rest =>
    if p c then
      let (ds, rest) := moreDigits p rest
      some (c :: ds, rest)
    else none
  | [] => none

/-- Exactly `n` digits. -/
def exactly? (n : Nat) (cs : List Char) : Option (Nat × List Char) :=
  let ds := cs.take n
  if ds.length = n ∧ ds.all isDigit then some (ofDigits ds, cs.drop n) else none

def drop? (c : Char) : List Char → Option (List Char)
  | d :: rest => if d = c then some rest else none
  | [] => none

/-! ## Dates and times -/

def date? (cs : List Char) : Option (Date × List Char) := do
  let (year, cs) ← exactly? 4 cs
  let cs ← drop? '-' cs
  let (month, cs) ← exactly? 2 cs
  let cs ← drop? '-' cs
  let (day, cs) ← exactly? 2 cs
  let date ← Date.make? year month day
  return (date, cs)

/-- Digits of a fraction of a second as nanoseconds. -/
def nanosOf (ds : List Char) : Nat :=
  let kept := ds.take 9
  ofDigits kept * Nat.pow 10 (9 - kept.length)

def fraction? : List Char → Option (Nat × List Char)
  | '.' :: rest =>
    let ds := rest.takeWhile isDigit
    if ds.isEmpty then none else some (nanosOf ds, rest.dropWhile isDigit)
  | cs => some (0, cs)

def time? (cs : List Char) : Option (ClockTime × List Char) := do
  let (hour, cs) ← exactly? 2 cs
  let cs ← drop? ':' cs
  let (minute, cs) ← exactly? 2 cs
  let cs ← drop? ':' cs
  let (second, cs) ← exactly? 2 cs
  let (nanos, cs) ← fraction? cs
  guard (hour ≤ 23 ∧ minute ≤ 59 ∧ second ≤ 60)
  return (⟨hour, minute, second, nanos⟩, cs)

def offset? : List Char → Option (Option Offset × List Char)
  | 'Z' :: rest | 'z' :: rest => some (some .zulu, rest)
  | sign :: rest =>
    if sign = '+' ∨ sign = '-' then do
      let (hours, rest) ← exactly? 2 rest
      let rest ← drop? ':' rest
      let (minutes, rest) ← exactly? 2 rest
      guard (hours ≤ 23 ∧ minutes ≤ 59)
      let total : Int := 60 * hours + minutes
      return (some (.minutes (if sign = '-' then -total else total)), rest)
    else some (none, sign :: rest)
  | [] => some (none, [])

/-- A date with the time and offset that may follow it. -/
def afterDate? (date : Date) (cs : List Char) : Option (Datetime × List Char) :=
  match cs with
  | mark :: rest =>
    if mark = 'T' ∨ mark = 't' ∨ mark = ' ' then
      match time? rest with
      | some (time, rest) => do
        let (offset, rest) ← offset? rest
        return (.both date time offset, rest)
      | none => some (.date date, cs)
    else some (.date date, cs)
  | [] => some (.date date, [])

def datetime? (cs : List Char) : Option (Datetime × List Char) :=
  match date? cs with
  | some (date, rest) => afterDate? date rest
  | none => (time? cs).map fun (time, rest) => (.time time, rest)

/-! ## Numbers -/

def sign : List Char → Bool × List Char
  | '+' :: rest => (false, rest)
  | '-' :: rest => (true, rest)
  | cs => (false, cs)

/-- A whole part: zero alone, or digits that do not start with zero. -/
def whole? : List Char → Option (List Char × List Char)
  | '0' :: rest => some (['0'], rest)
  | cs => digits? isDigit cs

def signedNat (negative : Bool) (n : Nat) : Int :=
  if negative then -n else n

/-- The sign and the digits of an exponent after its mark. -/
def exponent? (cs : List Char) : Option (Int × List Char) := do
  let (negative, cs) := sign cs
  let (ds, cs) ← digits? isDigit cs
  return (signedNat negative (ofDigits ds), cs)

def isMark (c : Char) : Bool :=
  c = 'e' || c = 'E'

/-- Fraction and exponent after a whole part; one of them must be there. -/
def decimal? (whole : List Char) (cs : List Char) : Option (Float × List Char) :=
  match cs with
  | '.' :: rest => do
    let (places, rest) ← digits? isDigit rest
    let m := ofDigits (whole ++ places)
    let x : Int := -places.length
    match rest with
    | c :: rest' =>
      if isMark c then
        let (e, rest) ← exponent? rest'
        return (Decimal.nearest m (x + e), rest)
      else return (Decimal.nearest m x, rest)
    | [] => return (Decimal.nearest m x, [])
  | c :: rest =>
    if isMark c then do
      let (e, rest) ← exponent? rest
      return (Decimal.nearest (ofDigits whole) e, rest)
    else none
  | [] => none

/-- A double.  One that is too great for a finite double is refused, unless it is negative. -/
def float? (cs : List Char) : Option (Float × List Char) := do
  let (negative, cs) := sign cs
  match cs with
  | 'i' :: 'n' :: 'f' :: rest =>
    return (if negative then -Decimal.infinity else Decimal.infinity, rest)
  | 'n' :: 'a' :: 'n' :: rest => return (Float.ofBits 0x7FF8000000000000, rest)
  | cs =>
    let (whole, cs) ← whole? cs
    let (f, cs) ← decimal? whole cs
    guard (negative || !f.isInf)
    return (if negative then -f else f, cs)

def hexDigit (c : Char) : Bool :=
  (Text.Hex.digit? c).isSome

def ofBase (base : Nat) (ds : List Char) : Nat :=
  ds.foldl (fun n c => base * n + (Text.Hex.digit? c).getD 0) 0

def fits (i : Int) : Option Int :=
  if Decimal.fitsInt64 i then some i else none

/-- A whole number; one in another base has no sign. -/
def int? : List Char → Option (Int × List Char)
  | '0' :: 'x' :: rest => do
    let (ds, rest) ← digits? hexDigit rest
    return (← fits (ofBase 16 ds), rest)
  | '0' :: 'o' :: rest => do
    let (ds, rest) ← digits? (fun c => isDigit c && c != '8' && c != '9') rest
    return (← fits (ofBase 8 ds), rest)
  | '0' :: 'b' :: rest => do
    let (ds, rest) ← digits? (fun c => c = '0' || c = '1') rest
    return (← fits (ofBase 2 ds), rest)
  | cs => do
    let (negative, cs) := sign cs
    let (ds, rest) ← whole? cs
    return (← fits (signedNat negative (ofDigits ds)), rest)

/-- A number, a date or a time. -/
def scalar? (cs : List Char) : Option (Toml × List Char) :=
  match datetime? cs with
  | some (t, rest) => some (.datetime t, rest)
  | none =>
    match float? cs with
    | some (f, rest) => some (.float f, rest)
    | none => (int? cs).map fun (i, rest) => (.int i, rest)

end SqlGateway.Toml
