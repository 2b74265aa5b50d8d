/-!
# What a double is

A double is not a number, an infinity, or `± mantissa · 2 ^ exponent` with a
mantissa below `2 ^ 53`.

    ofBits (e · 2 ^ 52 + f) = f · 2 ^ -1074                  for e = 0
    ofBits (e · 2 ^ 52 + f) = (2 ^ 52 + f) · 2 ^ (e - 1075)  for 0 < e < 2047
-/

namespace SqlGateway.Decimal

inductive Binary where
  | nan
  | infinite (negative : Bool)
  | finite (negative : Bool) (mantissa : Nat) (exponent : Int)
  deriving DecidableEq, Repr

namespace Binary

def ofBits (bits : Nat) : Binary :=
  let negative := decide (Nat.pow 2 63 ≤ bits)
  let e : Nat := bits / Nat.pow 2 52 % 2048
  let f : Nat := bits % Nat.pow 2 52
  if e = 2047 then (if f = 0 then .infinite negative else .nan)
  else if e = 0 then .finite negative f (-1074)
  else .finite negative (Nat.pow 2 52 + f) ((e : Int) - 1075)

def ofFloat (x : Float) : Binary :=
  ofBits x.toBits.toNat

/-- Neither an infinity nor NaN. -/
def isFinite : Binary → Bool
  | .finite .. => true
  | _ => false

/-- The whole number that a double is, if it is one. -/
def integral? : Binary → Option Int
  | .finite negative m q =>
    let signed (n : Nat) : Int := if negative then -n else n
    if 0 ≤ q then some (signed (m * Nat.pow 2 q.toNat))
    else if m % Nat.pow 2 (-q).toNat = 0 then some (signed (m / Nat.pow 2 (-q).toNat))
    else none
  | _ => none

end Binary

end SqlGateway.Decimal
