import SqlGateway.Json.Printer
import SqlGateway.Value.Basic

/-!
# Values as plain text

`display` is the bare text of a value: nothing is quoted, octets are read as
UTF-8 with a replacement character where they are none.  `inspect` names the
kind of a value as well.

    display (.list vs) = "(" ++ displays joined by "," ++ ")"
-/

namespace SqlGateway

def boolText (b : Bool) : String :=
  if b then "true" else "false"

/-- An optional part as a diagnostic shows it. -/
def inspectOption (text : Option String) : String :=
  match text with
  | none => "None"
  | some s => "Some(" ++ s ++ ")"

def inspectList (texts : List String) : String :=
  "[" ++ ", ".intercalate texts ++ "]"

namespace Value

mutual

def display : Value → String
  | .null => "NULL"
  | .bool b => boolText b
  | .int i => Decimal.ofInt i
  | .uint n => Decimal.ofNat n
  | .float x => Decimal.write .plain x
  | .text s => s
  | .bytes b => Text.Utf8.lossy b
  | .date d => d.text
  | .time t => t.text
  | .datetime t => t.text
  | .json j => j.compact
  | .list items => "(" ++ ",".intercalate (displayItems items) ++ ")"

def displayItems : List Value → List String
  | [] => []
  | v :: vs => display v :: displayItems vs

end

mutual

def inspect : Value → String
  | .null => "Null"
  | .bool b => "Bool(" ++ boolText b ++ ")"
  | .int i => "Int(" ++ Decimal.ofInt i ++ ")"
  | .uint n => "UInt(" ++ Decimal.ofNat n ++ ")"
  | .float x => "Float(" ++ Decimal.write .diagnostic x ++ ")"
  | .text s => "Text(" ++ Text.inspect s ++ ")"
  | .bytes b => "Bytes(" ++ inspectList (b.map fun x => Decimal.ofNat x.toNat) ++ ")"
  | .date d => "Date(" ++ d.text ++ ")"
  | .time t => "Time(" ++ t.exactText ++ ")"
  | .datetime t => "DateTime(" ++ t.exactText ++ ")"
  | .json j => "Json(" ++ j.inspect ++ ")"
  | .list items => "List(" ++ inspectList (inspectItems items) ++ ")"

def inspectItems : List Value → List String
  | [] => []
  | v :: vs => inspect v :: inspectItems vs

end

end Value

end SqlGateway
