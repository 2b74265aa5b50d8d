import SqlGateway.Dialect.Basic
import SqlGateway.Error

/-!
# Conditions

A condition is query text, one comparison, or a group of conditions.  Items of
an `OR` group stand in parentheses, and so does the group.

    text d (.or [c₁, c₂]) = "((" ++ text d c₁ ++ ") OR (" ++ text d c₂ ++ "))"
-/

namespace SqlGateway

/-- One comparison. -/
structure Term where
  identifier : String
  /-- When unset, `IN` for a list and `=` for any other value. -/
  operator : Option String := none
  value : Option Value := none
  /-- The value becomes a literal.  The items of a list always do. -/
  escape : Bool := true
  deriving BEq

inductive Condition where
  /-- Taken as it stands. -/
  | raw (sql : String)
  | term (t : Term)
  | or (items : List Condition)
  | and (items : List Condition)

namespace Condition

/-- `identifier = value`, or `identifier IN (…)` for a list. -/
def eq (identifier : String) (value : Value) : Condition :=
  .term { identifier, value := some value }

def compare (identifier operator : String) (value : Value) : Condition :=
  .term { identifier, operator := some operator, value := some value }

end Condition

namespace Term

/-- Operator and value of a comparison.  An operator alone is the value. -/
def comparison? (t : Term) : Option (String × Value) :=
  match t.operator, t.value with
  | none, none => none
  | some op, none => some ("=", .text op)
  | some op, some v => some (op, v)
  | none, some v => some (if v.isList then "IN" else "=", v)

def valueText (t : Term) (d : Dialect) (v : Value) : String :=
  match v with
  | .list items => "(" ++ d.literals items ++ ")"
  | v => if t.escape then d.literal v else v.display

/-- A term without operator and value is its identifier, taken as it stands. -/
def text (t : Term) (d : Dialect) : Except BuildError String :=
  if Text.isBlankText t.identifier then .error .blankIdentifier
  else match t.comparison? with
    | none => .ok t.identifier
    | some (op, v) => .ok (d.quoteIdentifier t.identifier ++ " " ++ op ++ " " ++ t.valueText d v)

end Term

namespace Condition

mutual

def text (d : Dialect) : Condition → Except BuildError String
  | .raw sql => .ok sql
  | .term t => t.text d
  | .or [] => .error (.emptyGroup .or)
  | .or (c :: cs) => do
    let first ← text d c
    let rest ← texts d cs
    return "(" ++ " OR ".intercalate ((first :: rest).map fun s => "(" ++ s ++ ")") ++ ")"
  | .and [] => .error (.emptyGroup .and)
  | .and (c :: cs) => do
    let first ← text d c
    let rest ← texts d cs
    return " AND ".intercalate (first :: rest)

/-- The first failure counts. -/
def texts (d : Dialect) : List Condition → Except BuildError (List String)
  | [] => .ok []
  | c :: cs => do
    let first ← text d c
    let rest ← texts d cs
    return first :: rest

end

end Condition

end SqlGateway
