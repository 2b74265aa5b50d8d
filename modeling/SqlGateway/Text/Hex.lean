/-!
# Octets in hexadecimal

Two digits an octet, the high half first.  `decode?` reads either case and
refuses an odd number of digits.

    decode? (encode .lower bytes) = some bytes,  and so for .upper
-/

namespace SqlGateway.Text.Hex

inductive Letters where
  | lower
  | upper
  deriving DecidableEq, Repr

def digit (letters : Letters) (n : Nat) : Char :=
  if n < 10 then Char.ofNat (48 + n)
  else match letters with
    | .lower => Char.ofNat (87 + n)
    | .upper => Char.ofNat (55 + n)

def octet (letters : Letters) (b : UInt8) : List Char :=
  [digit letters (b.toNat / 16), digit letters (b.toNat % 16)]

def encode (letters : Letters) (bytes : List UInt8) : String :=
  .ofList (bytes.flatMap (octet letters))

def digit? (c : Char) : Option Nat :=
  let n := c.toNat
  if 48 ≤ n ∧ n ≤ 57 then some (n - 48)
  else if 97 ≤ n ∧ n ≤ 102 then some (n - 87)
  else if 65 ≤ n ∧ n ≤ 70 then some (n - 55)
  else none

def decodeChars? : List Char → Option (List UInt8)
  | [] => some []
  | [_] => none
  | a :: b :: rest => do
    let hi ← digit? a
    let lo ← digit? b
    let bytes ← decodeChars? rest
    return UInt8.ofNat (16 * hi + lo) :: bytes

def decode? (s : String) : Option (List UInt8) :=
  decodeChars? s.toList

/-- A number in hexadecimal without leading zeros. -/
def ofNat (n : Nat) : String :=
  .ofList (Nat.toDigits 16 n)

/-- The number written by hexadecimal digits, at least one. -/
def toNat? (cs : List Char) : Option Nat :=
  if cs.isEmpty then none
  else cs.foldl (fun acc c => do return 16 * (← acc) + (← digit? c)) (some 0)

/-! ## Lemmas -/

theorem digit?_digit (letters : Letters) : ∀ n, n < 16 → digit? (digit letters n) = some n := by
  cases letters <;> decide

theorem decodeChars?_octet (letters : Letters) (b : UInt8) (cs : List Char) :
    decodeChars? (octet letters b ++ cs) = (decodeChars? cs).map (b :: ·) := by
  have hb := b.toNat_lt
  have hi := digit?_digit letters (b.toNat / 16) (by omega)
  have lo := digit?_digit letters (b.toNat % 16) (by omega)
  have eq : UInt8.ofNat (16 * (b.toNat / 16) + b.toNat % 16) = b := by
    rw [Nat.div_add_mod]; simp
  simp only [octet, List.cons_append, List.nil_append, decodeChars?, hi, lo, Option.bind_eq_bind,
    Option.bind_some, eq]
  cases decodeChars? cs <;> rfl

theorem decode?_encode (letters : Letters) (bytes : List UInt8) :
    decode? (encode letters bytes) = some bytes := by
  simp only [decode?, encode, String.toList_ofList]
  induction bytes with
  | nil => rfl
  | cons b bytes ih => simp [List.flatMap_cons, decodeChars?_octet, ih]

end SqlGateway.Text.Hex
