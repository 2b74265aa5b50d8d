import SqlGateway.Value.Display

/-!
# Values and JSON

`ofJson` reads a JSON value as a query value; objects stay JSON.  `toJson` is
the view handed to applications, `exactJson` the one that keeps octets as
numbers and fractions of a second.

    toJson (ofJson j) = j
-/

namespace SqlGateway.Value

mutual

/-- Whole numbers beyond the signed ones become unsigned. -/
def ofJson : Json → Value
  | .null => .null
  | .bool b => .bool b
  | .number (.int i) => if i ≤ Decimal.greatestInt64 then .int i else .uint i.toNat
  | .number (.float x) => .float x
  | .string s => .text s
  | .array items => .list (ofJsonItems items)
  | .object members => .json (.object members)

def ofJsonItems : List Json → List Value
  | [] => []
  | j :: js => ofJson j :: ofJsonItems js

end

/-- JSON has no infinities and no NaN. -/
def floatJson (x : Float) : Json :=
  if (Decimal.Binary.ofFloat x).isFinite then .number (.float x) else .null

mutual

def toJson : Value → Json
  | .null => .null
  | .bool b => .bool b
  | .int i => .int i
  | .uint n => .int n
  | .float x => floatJson x
  | .json j => j
  | .list items => .array (toJsonItems items)
  | .text s => .string s
  | .bytes b => .string (Text.Utf8.lossy b)
  | .date d => .string d.text
  | .time t => .string t.text
  | .datetime t => .string t.text

def toJsonItems : List Value → List Json
  | [] => []
  | v :: vs => toJson v :: toJsonItems vs

end

mutual

def exactJson : Value → Json
  | .null => .null
  | .bool b => .bool b
  | .int i => .int i
  | .uint n => .int n
  | .float x => floatJson x
  | .json j => j
  | .list items => .array (exactJsonItems items)
  | .text s => .string s
  | .bytes b => .array (b.map fun x => .int x.toNat)
  | .date d => .string d.text
  | .time t => .string t.exactText
  | .datetime t => .string t.exactText

def exactJsonItems : List Value → List Json
  | [] => []
  | v :: vs => exactJson v :: exactJsonItems vs

end

end SqlGateway.Value
