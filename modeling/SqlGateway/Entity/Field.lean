import SqlGateway.Row
import SqlGateway.Error

/-!
# Fields of entities

A record type reads its fields from the JSON view of a row, each by its kind.
Members are visited in the order of their names; only then missing fields are
looked for, in the order of the fields.

    decode fields ms = .ok vs   iff   every member named by a field has its kind
                                      and every required field has a member
-/

namespace SqlGateway

inductive FieldKind where
  | int64
  | string
  | boolean
  deriving DecidableEq, Repr

/-- A field of a record type. -/
structure Field where
  name : String
  kind : FieldKind
  /-- An optional field may be missing or null. -/
  required : Bool := true

inductive Scalar where
  | int (i : Int)
  | text (s : String)
  | bool (b : Bool)
  deriving DecidableEq

inductive DecodeError where
  | missing (field : String)
  | wrongType (found : String) (wanted : FieldKind)
  /-- A whole number that does not fit the field. -/
  | outOfRange (found : Int)
  deriving DecidableEq

namespace FieldKind

def text : FieldKind → String
  | .int64 => "i64"
  | .string => "a string"
  | .boolean => "a boolean"

end FieldKind

/-- A value as an error names it. -/
def Json.kindText : Json → String
  | .null => "null"
  | .bool b => "boolean \x60" ++ boolText b ++ "\x60"
  | .number (.int i) => "integer \x60" ++ Decimal.ofInt i ++ "\x60"
  | .number (.float x) => "floating point \x60" ++ (Json.Number.float x).text ++ "\x60"
  | .string s => "string " ++ Text.inspect s
  | .array _ => "sequence"
  | .object _ => "map"

namespace DecodeError

def text : DecodeError → String
  | .missing field => "missing field \x60" ++ field ++ "\x60"
  | .wrongType found wanted => "invalid type: " ++ found ++ ", expected " ++ wanted.text
  | .outOfRange found =>
    "invalid value: integer \x60" ++ Decimal.ofInt found ++ "\x60, expected "
      ++ FieldKind.int64.text

end DecodeError

namespace Field

/-- The value of a member; nothing for a null that is allowed. -/
def read (f : Field) (j : Json) : Except DecodeError (Option Scalar) :=
  match f.kind, j with
  | .int64, .number (.int i) =>
    if Decimal.fitsInt64 i then .ok (some (.int i)) else .error (.outOfRange i)
  | .string, .string s => .ok (some (.text s))
  | .boolean, .bool b => .ok (some (.bool b))
  | kind, .null => if f.required then .error (.wrongType "null" kind) else .ok none
  | kind, j => .error (.wrongType j.kindText kind)

/-- The values of the members that `fields` name. -/
def readMembers (fields : List Field) : Keyed Json → Except DecodeError (Keyed (Option Scalar))
  | [] => .ok []
  | (name, j) :: rest =>
    match fields.find? fun f => f.name == name with
    | none => readMembers fields rest
    | some f => do
      let value ← f.read j
      return (name, value) :: (← readMembers fields rest)

/-- The values of the fields, in their order. -/
def collect (values : Keyed (Option Scalar)) :
    List Field → Except DecodeError (List (Option Scalar))
  | [] => .ok []
  | f :: rest => do
    let value ← match Keyed.find? f.name values with
      | some value => pure value
      | none => if f.required then throw (.missing f.name) else pure none
    return value :: (← collect values rest)

def decode (fields : List Field) (members : Keyed Json) :
    Except DecodeError (List (Option Scalar)) := do
  collect (← readMembers fields members) fields

/-- The fields of a row for the record type `name`. -/
def ofRow (name : String) (fields : List Field) (row : Row) :
    Except SqlError (List (Option Scalar)) :=
  match decode fields (Keyed.ofList (row.cells.map fun cell => (cell.1, cell.2.toJson))) with
  | .ok values => .ok values
  | .error e => .error (.queryBuild (.cannotBuild name e.text))

end Field

end SqlGateway
