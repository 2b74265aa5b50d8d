/-!
# The fewest digits that read back

The reals that round to `m · 2 ^ q` form an interval around it, with its ends
when `m` is even.  `shortest` takes the coarsest power of ten with a multiple
in that interval, and of two such multiples the nearer.  If a grid has a point
in the interval, so does one of the value's two neighbours on the grid, so only
these are tried.

    shortest tie m q = (d, k)   where d · 10 ^ k is that multiple and 10 ∤ d
-/

namespace SqlGateway.Decimal

/-- Which of two equally near neighbours is taken. -/
inductive Tie where
  | up
  | even
  deriving DecidableEq, Repr

/-- `x · 2 ^ q / 10 ^ k` as numerator and denominator. -/
def fraction (x : Nat) (q k : Int) : Nat × Nat :=
  (x * Nat.pow 2 q.toNat * Nat.pow 10 (-k).toNat, Nat.pow 2 (-q).toNat * Nat.pow 10 k.toNat)

/-- The `e` with `10 ^ e ≤ m · 2 ^ q < 10 ^ (e + 1)`.  The first guess takes 0.30103 for the
decimal logarithm of two and is at most one too small for doubles. -/
def leadingExponent (m : Nat) (q : Int) : Int :=
  let guess := ((m.log2 + q) * 30103).fdiv 100000
  let (num, den) := fraction m q (guess + 1)
  if den ≤ num then guess + 1 else guess

/-- How far the interval reaches below `4 · m`, in quarters of the last place. -/
def lowerReach (m : Nat) (q : Int) : Nat :=
  if m = Nat.pow 2 52 ∧ -1074 < q then 1 else 2

/-- A multiple of `10 ^ k` that reads back as `m · 2 ^ q`, the nearer if there are two. -/
def onGrid? (tie : Tie) (m : Nat) (q k : Int) : Option Nat :=
  let (num, den) := fraction (4 * m) (q - 2) k
  let low := (fraction (4 * m - lowerReach m q) (q - 2) k).1
  let high := (fraction (4 * m + 2) (q - 2) k).1
  let d := num / den
  let closed := m % 2 = 0
  let down := low < d * den ∨ (closed ∧ low = d * den)
  let up := (d + 1) * den < high ∨ (closed ∧ (d + 1) * den = high)
  let twice := 2 * (num - d * den)
  let downNearer := twice < den ∨ (twice = den ∧ tie = .even ∧ d % 2 = 0)
  if num = d * den then some d
  else if down ∧ (downNearer ∨ ¬ up) then some d
  else if up then some (d + 1)
  else none

/-- The same number with no zero at the end of its digits. -/
def stripZeros (d : Nat) (k : Int) : Nat × Int :=
  if d ≠ 0 ∧ d % 10 = 0 then stripZeros (d / 10) (k + 1) else (d, k)
termination_by d
decreasing_by omega

/-- Seventeen digits always suffice for a double. -/
def shortest (tie : Tie) (m : Nat) (q : Int) : Nat × Int :=
  if m = 0 then (0, 0)
  else
    let e := leadingExponent m q
    let hit := (List.range 17).findSome? fun (i : Nat) =>
      (onGrid? tie m q (e - i)).map fun d => (d, e - i)
    match hit with
    | some (d, k) => stripZeros d k
    | none => (0, 0)

end SqlGateway.Decimal
