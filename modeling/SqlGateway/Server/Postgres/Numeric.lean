import SqlGateway.Text.Pieces

/-!
# PostgreSQL numerics

The binary form of a numeric is a count of groups, the power of 10000 of the
first group, a sign word, the number of decimals to show, and the groups: digits
to the base 10000.  Its text is exact as long as 96 bits and 28 decimals hold
it; beyond that decimals are rounded off, and a whole part that needs more has
no text.

    text of groups g₀ g₁ … with weight w = Σ gᵢ · 10000 ^ (w - i)
-/

namespace SqlGateway.Postgres

/-- Unsigned decimals are below this when written without a point. -/
def capacity : Nat := Nat.pow 2 96

def maxScale : Nat := 28

/-- `digits · 10 ^ -scale`. -/
structure Fixed where
  digits : Nat
  scale : Nat
  deriving DecidableEq

namespace Fixed

/-- The nearest whole quotient; a half goes to the even neighbour. -/
def roundDiv (m d : Nat) : Nat :=
  let q := m / d
  let r := m % d
  if d < 2 * r ∨ (2 * r = d ∧ q % 2 = 1) then q + 1 else q

/-- The nearest number that fits, with as many decimals as it can keep. -/
def fit? (f : Fixed) : Option Fixed :=
  (List.range (f.scale + 1)).findSome? fun cut =>
    let digits := roundDiv f.digits (Nat.pow 10 cut)
    if digits < capacity then some ⟨digits, f.scale - cut⟩ else none

def add? (a b : Fixed) : Option Fixed :=
  let scale := max a.scale b.scale
  fit? ⟨a.digits * Nat.pow 10 (scale - a.scale) + b.digits * Nat.pow 10 (scale - b.scale), scale⟩

/-- With more decimals, up to `extra`, while it fits. -/
def extend (extra : Nat) (f : Fixed) : Fixed :=
  match extra with
  | 0 => f
  | extra + 1 =>
    if f.digits * 10 < capacity then extend extra ⟨f.digits * 10, f.scale + 1⟩ else f

/-- With `scale` decimals, or as many as fit; a half is rounded up. -/
def rescale (scale : Nat) (f : Fixed) : Fixed :=
  if f.digits = 0 then ⟨0, scale⟩
  else if f.scale ≤ scale then extend (scale - f.scale) f
  else
    let cut := f.scale - scale
    ⟨(f.digits + 5 * Nat.pow 10 (cut - 1)) / Nat.pow 10 cut, scale⟩

def text (f : Fixed) : String :=
  let digits := Text.padded (f.scale + 1) f.digits
  if f.scale = 0 then digits
  else
    let whole := digits.length - f.scale
    .ofList (digits.toList.take whole ++ '.' :: digits.toList.drop whole)

end Fixed

structure Numeric where
  /-- The power of 10000 of the first group. -/
  weight : Int
  negative : Bool
  scale : Nat
  groups : List Nat

namespace Numeric

/-- The groups before the point. -/
def wholeGroups (n : Numeric) : List Nat :=
  n.groups.take (n.weight + 1).toNat

/-- The groups after the point. -/
def fractionGroups (n : Numeric) : List Nat :=
  n.groups.drop (n.weight + 1).toNat

/-- The part before the point; groups left out at its end are zero. -/
def whole (n : Numeric) : Nat :=
  let groups := n.wholeGroups
  groups.foldl (fun m g => m * 10000 + g) 0 * Nat.pow 10000 ((n.weight + 1).toNat - groups.length)

/-- What a group adds whose last digit is decimal number `place`.  The first group beyond the last
place is rounded to that place. -/
def term (place group : Nat) : Fixed :=
  if place ≤ maxScale then ⟨group, place⟩
  else if place = maxScale + 4 ∧ 5000 ≤ group then ⟨1, maxScale⟩
  else ⟨0, 0⟩

/-- The decimals added group by group. -/
def addGroups (place : Nat) : List Nat → Fixed → Option Fixed
  | [], f => some f
  | g :: gs, f => do addGroups (place + 4) gs (← f.add? (term place g))

/-- The number without its sign, if its whole part fits. -/
def magnitude? (n : Numeric) : Option Fixed :=
  let skipped := (-(n.weight + 1)).toNat
  if n.whole < capacity then addGroups (4 * (skipped + 1)) n.fractionGroups ⟨n.whole, 0⟩ else none

/-- The sign is written before zero too. -/
def text? (n : Numeric) : Option String :=
  n.magnitude?.map fun f =>
    (if n.negative then "-" else "") ++ (f.rescale (min n.scale maxScale)).text

/-- Two octets, the high one first. -/
def word? : List UInt8 → Option (Nat × List UInt8)
  | a :: b :: rest => some (a.toNat * 256 + b.toNat, rest)
  | _ => none

def words? : Nat → List UInt8 → Option (List Nat)
  | 0, _ => some []
  | n + 1, bytes => do
    let (w, rest) ← word? bytes
    return w :: (← words? n rest)

/-- The sign words of numbers; others mark what is no number. -/
def isNegative? : Nat → Option Bool
  | 0 => some false
  | 0x4000 => some true
  | _ => none

def decode? (bytes : List UInt8) : Option Numeric := do
  let [count, weight, sign, scale] ← words? 4 bytes | none
  let negative ← isNegative? sign
  return { weight := Int.bmod weight 65_536, negative, scale,
           groups := ← words? count (bytes.drop 8) }

/-- What is no number is told by the sign word alone. -/
def special? (bytes : List UInt8) : Option String :=
  match (bytes.drop 4).take 2 with
  | [0xC0, 0x00] => some "NaN"
  | [0xD0, 0x00] => some "Infinity"
  | [0xF0, 0x00] => some "-Infinity"
  | _ => none

/-- The text of a cell, if it has one. -/
def cellText? (bytes : List UInt8) : Option String :=
  (decode? bytes).bind text? <|> special? bytes

end Numeric

end SqlGateway.Postgres
