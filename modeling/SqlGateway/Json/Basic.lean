import SqlGateway.Keyed

/-!
# JSON values

Members of an object are kept in the order of their names, one member a name.
Numbers are whole numbers or doubles; two numbers are equal only within one
kind, and doubles as doubles are (`-0.0 == 0.0`, a NaN equals nothing).

    ofMembers ms = .object (Keyed.ofList ms)
-/

namespace SqlGateway

inductive Json.Number where
  | int (i : Int)
  | float (x : Float)
  deriving BEq

inductive Json where
  | null
  | bool (b : Bool)
  | number (n : Json.Number)
  | string (s : String)
  | array (items : List Json)
  | object (members : List (String × Json))
  deriving Inhabited

namespace Json

def int (i : Int) : Json := .number (.int i)

mutual

def beq : Json → Json → Bool
  | .null, .null => true
  | .bool a, .bool b => a == b
  | .number a, .number b => a == b
  | .string a, .string b => a == b
  | .array a, .array b => beqItems a b
  | .object a, .object b => beqMembers a b
  | _, _ => false

def beqItems : List Json → List Json → Bool
  | [], [] => true
  | a :: as, b :: bs => beq a b && beqItems as bs
  | _, _ => false

def beqMembers : List (String × Json) → List (String × Json) → Bool
  | [], [] => true
  | (k, a) :: as, (l, b) :: bs => k == l && beq a b && beqMembers as bs
  | _, _ => false

end

instance : BEq Json := ⟨beq⟩

/-- The object with these members; the last of a name counts. -/
def ofMembers (members : List (String × Json)) : Json :=
  .object (Keyed.ofList members)

end Json

end SqlGateway
