/-!
# Whole numbers of a fixed width

Reading takes one optional sign, then digits, and nothing else; the number must
fit.  Writing is the usual decimal form.

    int64? t = some i   iff   t is [+-]?[0-9]+ with value i and -2^63 ≤ i < 2^63
-/

namespace SqlGateway.Decimal

def leastInt64 : Int := -Nat.pow 2 63

def greatestInt64 : Int := Nat.pow 2 63 - 1

def greatestUInt64 : Nat := Nat.pow 2 64 - 1

def fitsInt64 (i : Int) : Bool :=
  decide (leastInt64 ≤ i) && decide (i ≤ greatestInt64)

/-- The nearest number that fits. -/
def clampInt64 (i : Int) : Int :=
  max leastInt64 (min greatestInt64 i)

def isDigit (c : Char) : Bool :=
  decide (48 ≤ c.toNat) && decide (c.toNat ≤ 57)

def ofDigits (cs : List Char) : Nat :=
  cs.foldl (fun n c => 10 * n + (c.toNat - 48)) 0

def natural? (cs : List Char) : Option Nat :=
  if cs.isEmpty || !cs.all isDigit then none else some (ofDigits cs)

def signed? : List Char → Option Int
  | '+' :: cs => (natural? cs).map fun n : Nat => (n : Int)
  | '-' :: cs => (natural? cs).map fun n : Nat => -(n : Int)
  | cs => (natural? cs).map fun n : Nat => (n : Int)

def int64? (s : String) : Option Int :=
  (signed? s.toList).filter fitsInt64

/-- A minus sign is refused here, also before zero. -/
def uint64? (s : String) : Option Nat :=
  let digits := match s.toList with
    | '+' :: cs => cs
    | cs => cs
  (natural? digits).filter fun n => decide (n ≤ greatestUInt64)

def ofNat (n : Nat) : String :=
  .ofList (Nat.toDigits 10 n)

def ofInt (i : Int) : String :=
  if i < 0 then "-" ++ ofNat i.natAbs else ofNat i.natAbs

/-- `i` read as a number of `2 ^ bits` values that wrap around, half of them negative. -/
def wrapSigned (bits : Nat) (i : Int) : Int :=
  Int.bmod i (Nat.pow 2 bits)

end SqlGateway.Decimal
