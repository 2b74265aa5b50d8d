import SqlGateway.Calendar.Time
import SqlGateway.Decimal.Signed
import SqlGateway.Json.Basic
import SqlGateway.Text.Hex

/-!
# Reading parts of JSON values

Each function reads one shape and has no answer for any other.

    optional? read j name = none when the member is there and read refuses it
-/

namespace SqlGateway.Json

def asString? : Json → Option String
  | .string s => some s
  | _ => none

def asInt? : Json → Option Int
  | .number (.int i) => some i
  | _ => none

def asNat? (j : Json) : Option Nat :=
  j.asInt?.map Int.toNat

def asBool? : Json → Option Bool
  | .bool b => some b
  | _ => none

def asArray? : Json → Option (List Json)
  | .array items => some items
  | _ => none

/-- A whole number, as a number or as its decimal text. -/
def asDecimal? : Json → Option Int
  | .string s => Decimal.signed? s.toList
  | j => j.asInt?

/-- A number in hexadecimal text. -/
def asHex? : Json → Option Nat
  | .string s => Text.Hex.toNat? s.toList
  | _ => none

/-- Octets in hexadecimal text. -/
def asBytes? (j : Json) : Option (List UInt8) :=
  j.asString?.bind Text.Hex.decode?

def listOf? {α : Type} (read : Json → Option α) (j : Json) : Option (List α) := do
  (← j.asArray?).mapM read

/-- All members; what is no object has none. -/
def members : Json → Keyed Json
  | .object ms => ms
  | _ => []

/-- A member that is there, also when it is null. -/
def member? (j : Json) (name : String) : Option Json :=
  Keyed.find? name j.members

/-- A member that is there and not null. -/
def given? (j : Json) (name : String) : Option Json :=
  match j.member? name with
  | some .null => none
  | other => other

def optional? {α : Type} (read : Json → Option α) (j : Json) (name : String) :
    Option (Option α) :=
  match j.given? name with
  | none => some none
  | some v => (read v).map some

def withDefault? {α : Type} (read : Json → Option α) (j : Json) (name : String) (default : α) :
    Option α :=
  (j.optional? read name).map fun a => a.getD default

def text? (j : Json) (name : String) : Option String :=
  (j.member? name).bind asString?

def asDate? (j : Json) : Option Date := do
  match ← j.listOf? asInt? with
  | [y, m, d] => Date.make? y m.toNat d.toNat
  | _ => none

def asTime? (j : Json) : Option Time := do
  match ← j.listOf? asNat? with
  | [h, m, s, n] => Time.make? h m s n
  | _ => none

def asDateTime? (j : Json) : Option DateTime := do
  match ← j.listOf? asInt? with
  | [y, mo, d, h, m, s, n] =>
    return ⟨← Date.make? y mo.toNat d.toNat, ← Time.make? h.toNat m.toNat s.toNat n.toNat⟩
  | _ => none

/-- `null` for nothing. -/
def orNull {α : Type} (write : α → Json) : Option α → Json
  | some a => write a
  | none => .null

def nat (n : Nat) : Json := .int n

end SqlGateway.Json
