import SqlGateway.Exchange.Reading
import SqlGateway.Row

/-!
# Values with their kinds

A form of values in JSON that keeps the kind of each: whole numbers as decimal
text, doubles by their bits, octets in hexadecimal, dates and times by their
parts.  All NaNs are written alike.

    Value.ofTagged? v.tagged = some v    for a v without NaN and without JSON inside
-/

namespace SqlGateway

def Date.parts (d : Date) : List Int :=
  [d.year, d.month, d.day]

def Time.parts (t : Time) : List Int :=
  [t.hour, t.minute, t.second, t.nanos]

namespace Value

def bitsText (x : Float) : String :=
  let digits := Nat.toDigits 16 x.toBits.toNat
  .ofList (List.replicate (16 - digits.length) '0' ++ digits)

def tagged1 (tag : String) (j : Json) : Json :=
  .object [(tag, j)]

mutual

def tagged : Value → Json
  | .null => .null
  | .bool b => .bool b
  | .int i => tagged1 "int" (.string (Decimal.ofInt i))
  | .uint n => tagged1 "uint" (.string (Decimal.ofNat n))
  | .float x => tagged1 "float" (.string (if x.isNaN then "nan" else bitsText x))
  | .text s => tagged1 "text" (.string s)
  | .bytes b => tagged1 "bytes" (.string (Text.Hex.encode .lower b))
  | .date d => tagged1 "date" (.array (d.parts.map .int))
  | .time t => tagged1 "time" (.array (t.parts.map .int))
  | .datetime t => tagged1 "datetime" (.array ((t.date.parts ++ t.time.parts).map .int))
  | .json j => tagged1 "json" (.string j.compact)
  | .list items => tagged1 "list" (.array (taggedItems items))

def taggedItems : List Value → List Json
  | [] => []
  | v :: vs => tagged v :: taggedItems vs

end

/-- A double from the hexadecimal digits of its bits. -/
def float? (j : Json) : Option Float :=
  j.asHex?.map fun n => Float.ofBits (UInt64.ofNat n)

/-- The double of a single, from the hexadecimal digits of the single's bits. -/
def single? (j : Json) : Option Float :=
  j.asHex?.map fun n => (Float32.ofBits (UInt32.ofNat n)).toFloat

/-- A value that is no list. -/
def scalar? (tag : String) (j : Json) : Option Value :=
  match tag with
  | "int" => j.asDecimal?.map .int
  | "uint" => j.asDecimal?.map fun i => .uint i.toNat
  | "float" => (float? j).map .float
  | "text" => j.asString?.map .text
  | "bytes" => j.asBytes?.map .bytes
  | "date" => j.asDate?.map .date
  | "time" => j.asTime?.map .time
  | "datetime" => j.asDateTime?.map .datetime
  | "json" => some (.json j)
  | _ => none

mutual

def ofTagged? : Json → Option Value
  | .null => some .null
  | .bool b => some (.bool b)
  | .object [("list", .array items)] => (ofTaggedItems? items).map .list
  | .object [(tag, j)] => scalar? tag j
  | _ => none

def ofTaggedItems? : List Json → Option (List Value)
  | [] => some []
  | j :: js => do return (← ofTagged? j) :: (← ofTaggedItems? js)

end

end Value

/-- Names with values. -/
abbrev Pairs : Type := List (String × Value)

namespace Pairs

def tagged (ps : Pairs) : Json :=
  .array (ps.map fun p => .array [.string p.1, p.2.tagged])

def pair? (j : Json) : Option (String × Value) := do
  match ← j.asArray? with
  | [name, v] => return (← name.asString?, ← Value.ofTagged? v)
  | _ => none

def ofTagged? (j : Json) : Option Pairs :=
  j.listOf? pair?

end Pairs

namespace Row

def tagged (r : Row) : Json :=
  Pairs.tagged r.cells

def ofTagged? (j : Json) : Option Row :=
  (Pairs.ofTagged? j).map fun cells => ⟨cells⟩

end Row

end SqlGateway
