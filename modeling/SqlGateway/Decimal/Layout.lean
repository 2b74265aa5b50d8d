import SqlGateway.Decimal.Binary
import SqlGateway.Decimal.Shortest

/-!
# Writing a double

A `Layout` holds the decisions that differ between formats: which magnitudes
are written without an exponent, whether a whole number keeps a `.0`, whether
an exponent carries a plus sign, and which neighbour wins a tie.

    write layout x = sign, then the digits of `shortest` laid out by `layout`
-/

namespace SqlGateway.Decimal

structure Layout where
  /-- Whether a number whose first digit stands at `10 ^ e` is written without an exponent. -/
  positional : Int → Bool
  /-- A whole number in positional form ends in `.0`. -/
  pointZero : Bool
  /-- An exponent that is not negative has a plus sign. -/
  exponentPlus : Bool
  tie : Tie

namespace Layout

/-- All digits, and no point in a whole number. -/
def plain : Layout := ⟨fun _ => true, false, false, .up⟩

/-- Exponents below `1e-4` and from `1e16` on. -/
def diagnostic : Layout := ⟨fun e => decide (-4 ≤ e) && decide (e ≤ 15), true, false, .up⟩

/-- Exponents below `1e-5` and from `1e16` on. -/
def interchange : Layout := ⟨fun e => decide (-5 ≤ e) && decide (e ≤ 15), true, true, .even⟩

end Layout

def positionalChars (pointZero : Bool) (digits : List Char) (k : Int) : List Char :=
  let e := k + digits.length - 1
  if 0 ≤ k then
    digits ++ List.replicate k.toNat '0' ++ (if pointZero then ['.', '0'] else [])
  else if 0 ≤ e then
    digits.take (e.toNat + 1) ++ '.' :: digits.drop (e.toNat + 1)
  else
    '0' :: '.' :: List.replicate (-e - 1).toNat '0' ++ digits

def scientificChars (plus : Bool) (digits : List Char) (k : Int) : List Char :=
  let e := k + digits.length - 1
  let mantissa := match digits with
    | [] => []
    | [d] => [d]
    | d :: rest => d :: '.' :: rest
  let sign := if e < 0 then ['-'] else if plus then ['+'] else []
  mantissa ++ 'e' :: sign ++ Nat.toDigits 10 e.natAbs

/-- The number `d · 10 ^ k`. -/
def magnitudeChars (layout : Layout) (d : Nat) (k : Int) : List Char :=
  let digits := Nat.toDigits 10 d
  if layout.positional (k + digits.length - 1) then positionalChars layout.pointZero digits k
  else scientificChars layout.exponentPlus digits k

def signChars (negative : Bool) : List Char :=
  if negative then ['-'] else []

def Binary.chars (layout : Layout) : Binary → List Char
  | .nan => ['N', 'a', 'N']
  | .infinite negative => signChars negative ++ ['i', 'n', 'f']
  | .finite negative m q =>
    let (d, k) := shortest layout.tie m q
    signChars negative ++ magnitudeChars layout d k

def write (layout : Layout) (x : Float) : String :=
  .ofList ((Binary.ofFloat x).chars layout)

end SqlGateway.Decimal
