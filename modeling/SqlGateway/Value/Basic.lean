import SqlGateway.Calendar.Time
import SqlGateway.Decimal.Binary
import SqlGateway.Decimal.Signed
import SqlGateway.Json.Basic
import SqlGateway.Text.Blank
import SqlGateway.Text.Utf8

/-!
# Values

A `Value` is what a caller hands to a query and what a cell of a result holds.
Whole numbers stand for 64-bit ones, signed or not.  Equality is that of the
parts, so a NaN equals nothing, itself included.

    asInt? v = the signed 64-bit number that v is or that its text spells
-/

namespace SqlGateway

inductive Value where
  | null
  | bool (b : Bool)
  | int (i : Int)
  | uint (n : Nat)
  | float (x : Float)
  | text (s : String)
  | bytes (b : List UInt8)
  | date (d : Date)
  | time (t : Time)
  | datetime (t : DateTime)
  | json (j : Json)
  | list (items : List Value)
  deriving Inhabited

namespace Value

mutual

def beq : Value → Value → Bool
  | .null, .null => true
  | .bool a, .bool b => a == b
  | .int a, .int b => a == b
  | .uint a, .uint b => a == b
  | .float a, .float b => a == b
  | .text a, .text b => a == b
  | .bytes a, .bytes b => a == b
  | .date a, .date b => a == b
  | .time a, .time b => a == b
  | .datetime a, .datetime b => a == b
  | .json a, .json b => a == b
  | .list a, .list b => beqItems a b
  | _, _ => false

def beqItems : List Value → List Value → Bool
  | [], [] => true
  | a :: as, b :: bs => beq a b && beqItems as bs
  | _, _ => false

end

instance : BEq Value := ⟨beq⟩

def isNull : Value → Bool
  | .null => true
  | _ => false

def isList : Value → Bool
  | .list _ => true
  | _ => false

def asText? : Value → Option String
  | .text s => some s
  | _ => none

/-- Aggregates often arrive as text, so a text or octets that spell a number count as it.  A whole
double out of range gives the nearest number in range. -/
def asInt? : Value → Option Int
  | .int i => some i
  | .uint n => if (n : Int) ≤ Decimal.greatestInt64 then some n else none
  | .float x => (Decimal.Binary.ofFloat x).integral?.map Decimal.clampInt64
  | .text s => Decimal.int64? (Text.trim s)
  | .bytes b => do Decimal.int64? (Text.trim (← Text.Utf8.decode? b))
  | _ => none

end Value

end SqlGateway
