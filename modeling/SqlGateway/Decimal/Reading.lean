import SqlGateway.Decimal.Signed

/-!
# Reading decimals as doubles

The nearest double of `m · 10 ^ x`.  Exponents far beyond those of doubles are
settled by the number of digits alone.

    nearest m x = 0 below 10 ^ -400, infinite above 10 ^ 400, else correctly rounded
-/

namespace SqlGateway.Decimal

def infinity : Float := Float.ofBits 0x7FF0000000000000

def nearest (m : Nat) (x : Int) : Float :=
  let leading := x + (Nat.toDigits 10 m).length
  if m = 0 ∨ leading < -400 then 0.0
  else if 400 < leading then infinity
  else if 0 ≤ x then Float.ofScientific m false x.toNat
  else Float.ofScientific m true (-x).toNat

end SqlGateway.Decimal
