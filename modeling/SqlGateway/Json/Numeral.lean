import SqlGateway.Decimal.Signed
import SqlGateway.Json.Basic

/-!
# JSON numerals

A numeral has a whole part without leading zeros, then perhaps a fraction, then
perhaps an exponent.  Only as many digits count as fit 64 bits: the significand.
A numeral without fraction and exponent whose digits all count is whole, if its
sign allows; every other one is the double

    significand · 10 ^ x      rounded once for the significand and once for the power
-/

namespace SqlGateway.Json.Numeral

open SqlGateway.Decimal (isDigit ofDigits)

/-- The greatest exponent of ten that is multiplied or divided by in one step. -/
def greatestPower : Nat := 308

def powerOfTen (n : Nat) : Float :=
  Float.ofScientific 1 false n

/-- `f / 10 ^ n`, in steps of `greatestPower`. -/
def divideDown (f : Float) (n : Nat) : Float :=
  if n ≤ greatestPower then f / powerOfTen n
  else if f == 0.0 then f
  else divideDown (f / powerOfTen greatestPower) (n - greatestPower)
termination_by n
decreasing_by simp only [greatestPower] at *; omega

/-- `m · 10 ^ x` as a double; nothing when it is too great for one. -/
def scaled? (m : Nat) (x : Int) : Option Float :=
  let f := Float.ofNat m
  match x with
  | .ofNat n =>
    if n ≤ greatestPower then
      let product := f * powerOfTen n
      if product.isInf then none else some product
    else if m = 0 then some f else none
  | .negSucc n => some (divideDown f (n + 1))

/-- Takes digits into a significand while it fits 64 bits: the significand and how many were
taken. -/
def absorb (m : Nat) : List Char → Nat × Nat
  | [] => (m, 0)
  | c :: cs =>
    let next := 10 * m + (c.toNat - 48)
    if next ≤ Decimal.greatestUInt64 then
      let (total, taken) := absorb next cs
      (total, taken + 1)
    else (m, 0)

def isExponentMark (c : Char) : Bool :=
  c = 'e' || c = 'E'

/-- Sign, digits and what follows them, for the text after an exponent mark. -/
def exponent? (cs : List Char) : Option (Bool × Nat × List Char) :=
  let (negative, cs) := match cs with
    | '+' :: rest => (false, rest)
    | '-' :: rest => (true, rest)
    | rest => (false, rest)
  let digits := cs.takeWhile isDigit
  if digits.isEmpty then none else some (negative, ofDigits digits, cs.dropWhile isDigit)

/-- Exponents from here on are not counted with. -/
def exponentLimit : Nat := Nat.pow 2 31

/-- The double of a significand, its power of ten and a written exponent. -/
def withExponent? (m : Nat) (x : Int) (negative : Bool) (written : Nat) : Option Float :=
  if written < exponentLimit then
    scaled? m (if negative then x - written else x + written)
  else if m = 0 ∨ negative then some 0.0
  else none

def signedFloat (negative : Bool) (f : Float) : Number :=
  .float (if negative then -f else f)

/-- The double of a significand and a power of ten, with the exponent that `cs` may begin with. -/
def finish? (negative : Bool) (m : Nat) (x : Int) (cs : List Char) :
    Option (Number × List Char) :=
  match cs with
  | c :: rest =>
    if isExponentMark c then do
      let (down, written, rest) ← exponent? rest
      let f ← withExponent? m x down written
      return (signedFloat negative f, rest)
    else do
      let f ← scaled? m x
      return (signedFloat negative f, cs)
  | [] => do
    let f ← scaled? m x
    return (signedFloat negative f, [])

/-- A whole numeral: an integer, unless it is a negative zero or below 64 bits. -/
def whole (negative : Bool) (m : Nat) : Number :=
  if !negative then .int m
  else if m = 0 ∨ Nat.pow 2 63 < m then .float (-(Float.ofNat m))
  else .int (-(m : Int))

/-- The numeral after its sign, and what follows it. -/
def unsigned? (negative : Bool) (cs : List Char) : Option (Number × List Char) :=
  let digits := cs.takeWhile isDigit
  let rest := cs.dropWhile isDigit
  if digits.isEmpty || (digits.head? == some '0' && digits.length != 1) then none
  else
    let (m, taken) := absorb 0 digits
    let dropped : Int := digits.length - taken
    match rest with
    | '.' :: rest =>
      let places := rest.takeWhile isDigit
      if places.isEmpty then none
      else
        let (m, taken) := absorb m places
        finish? negative m (dropped - taken) (rest.dropWhile isDigit)
    | c :: _ =>
      if isExponentMark c || dropped != 0 then finish? negative m dropped rest
      else some (whole negative m, rest)
    | [] => if dropped != 0 then finish? negative m dropped rest else some (whole negative m, rest)

/-- The numeral at the start of `cs`, and what follows it. -/
def read? : List Char → Option (Number × List Char)
  | '-' :: cs => unsigned? true cs
  | cs => unsigned? false cs

end SqlGateway.Json.Numeral
