/-!
# UTF-8

`pieces` reads octets from left to right.  Each piece is a character, or one
maximal run of octets that begins a character and does not end it; a run that
begins none is one octet long.

    decode? bytes = some s  when every piece is a character
    lossy bytes             with U+FFFD for each piece that is none
-/

namespace SqlGateway.Text.Utf8

def encode (s : String) : List UInt8 :=
  s.toList.flatMap String.utf8EncodeChar

/-- What the first octet `a` of a longer character asks for: the least and the greatest second
octet, and how many octets follow that one. -/
def opening? (a : Nat) : Option (Nat × Nat × Nat) :=
  if a < 0xC2 then none
  else if a < 0xE0 then some (0x80, 0xBF, 0)
  else if a = 0xE0 then some (0xA0, 0xBF, 1)
  else if a = 0xED then some (0x80, 0x9F, 1)
  else if a < 0xF0 then some (0x80, 0xBF, 1)
  else if a = 0xF0 then some (0x90, 0xBF, 2)
  else if a < 0xF4 then some (0x80, 0xBF, 2)
  else if a = 0xF4 then some (0x80, 0x8F, 2)
  else none

def isContinuation (b : UInt8) : Bool :=
  decide (0x80 ≤ b.toNat) && decide (b.toNat ≤ 0xBF)

/-- The six low bits. -/
def low (b : UInt8) : Nat :=
  b.toNat % 64

def pieces : List UInt8 → List (Option Char)
  | [] => []
  | a :: rest =>
    if a.toNat < 0x80 then some (Char.ofNat a.toNat) :: pieces rest
    else match opening? a.toNat with
      | none => none :: pieces rest
      | some (least, greatest, more) =>
        match rest with
        | [] => [none]
        | b :: rest₁ =>
          if b.toNat < least ∨ greatest < b.toNat then none :: pieces (b :: rest₁)
          else match more with
            | 0 => some (Char.ofNat (a.toNat % 32 * 64 + low b)) :: pieces rest₁
            | 1 =>
              match rest₁ with
              | [] => [none]
              | c :: rest₂ =>
                if isContinuation c then
                  some (Char.ofNat ((a.toNat % 16 * 64 + low b) * 64 + low c)) :: pieces rest₂
                else none :: pieces (c :: rest₂)
            | _ =>
              match rest₁ with
              | [] => [none]
              | c :: rest₂ =>
                if isContinuation c then
                  match rest₂ with
                  | [] => [none]
                  | d :: rest₃ =>
                    if isContinuation d then
                      some (Char.ofNat (((a.toNat % 8 * 64 + low b) * 64 + low c) * 64 + low d))
                        :: pieces rest₃
                    else none :: pieces (d :: rest₃)
                else none :: pieces (c :: rest₂)

def decode? (bytes : List UInt8) : Option String :=
  ((pieces bytes).mapM id).map String.ofList

def lossy (bytes : List UInt8) : String :=
  .ofList ((pieces bytes).map fun p => p.getD (Char.ofNat 0xFFFD))

/-- Whether the first `n` octets of the encoding end where a character ends. -/
def isBoundary (n : Nat) (s : String) : Bool :=
  go n s.toList
where
  go : Nat → List Char → Bool
    | 0, _ => true
    | _ + 1, [] => false
    | n + 1, c :: cs => if c.utf8Size ≤ n + 1 then go (n + 1 - c.utf8Size) cs else false
  termination_by _ cs => cs

end SqlGateway.Text.Utf8
