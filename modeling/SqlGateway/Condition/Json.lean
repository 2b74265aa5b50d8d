import SqlGateway.Condition.Basic
import SqlGateway.Json.Parser
import SqlGateway.Value.Json

/-!
# Conditions written as JSON

A string is query text.  A list that starts with a string is one term: its
identifier, operator and value, and whether to escape the value; the operator
may be left out.  A list that starts with a list is an `OR` group, each item of
which is a condition or, when it starts with a list itself, an `AND` group.

    "id = 5"                           query text
    ["id", 5]                          "id" = 5
    ["id", ">", 5]                     "id" > 5
    [["a", 1], ["b", 2]]               (("a" = 1) OR ("b" = 2))
    [[["a", 1], ["b", 2]], ["c", 3]]   (("a" = 1 AND "b" = 2) OR ("c" = 3))
-/

namespace SqlGateway

namespace Term

/-- Operator and value from the second and third item. -/
def compared (identifier : String) (escape : Bool) : Json → Json → Except BuildError Term
  | .null, _ => .ok { identifier, escape }
  | value, .null => .ok { identifier, value := some (.ofJson value), escape }
  | .string op, value =>
    .ok { identifier, operator := some op, value := some (.ofJson value), escape }
  | other, _ => .error (.operatorNotText other.compact)

def escapeFlag : Json → Except BuildError Bool
  | .null => .ok true
  | .bool b => .ok b
  | other => .error (.escapeNotBool other.compact)

/-- A term from the items of a list; items that are left out count as null. -/
def ofItems (items : List Json) : Except BuildError Term :=
  if 4 < items.length then .error (.tooManyArguments items.length)
  else match items with
    | [] => .error .emptyConditionList
    | .string identifier :: rest => do
      let escape ← escapeFlag (rest[2]?.getD .null)
      compared identifier escape (rest[0]?.getD .null) (rest[1]?.getD .null)
    | other :: _ => .error (.identifierNotText other.compact)

/-- A term from the text of a JSON list. -/
def parse (text : String) : Except BuildError Term :=
  match Json.parse? Json.depthLimit text with
  | none => .error .invalidConditionJson
  | some (.array items) => ofItems items
  | some _ => .error .notAConditionList

end Term

namespace Condition

def startsWithList : List Json → Bool
  | .array _ :: _ => true
  | _ => false

mutual

def ofJson : Json → Except BuildError Condition
  | .string sql => .ok (.raw sql)
  | .array items =>
    if items.isEmpty then .error .emptyConditionList
    else if startsWithList items then do return .or (← branches items)
    else do return .term (← Term.ofItems items)
  | other => .error (.notACondition other.compact)

/-- The items of an `OR` group. -/
def branches : List Json → Except BuildError (List Condition)
  | [] => .ok []
  | .array items :: rest => do
    let first ← if startsWithList items then do pure (.and (← ofJsonItems items))
      else ofJson (.array items)
    return first :: (← branches rest)
  | j :: rest => do
    let first ← ofJson j
    return first :: (← branches rest)

/-- The items of an `AND` group. -/
def ofJsonItems : List Json → Except BuildError (List Condition)
  | [] => .ok []
  | j :: rest => do
    let first ← ofJson j
    return first :: (← ofJsonItems rest)

end

/-- A condition from JSON text. -/
def parse (text : String) : Except BuildError Condition :=
  match Json.parse? Json.depthLimit text with
  | none => .error .invalidConditionJson
  | some j => ofJson j

end Condition

end SqlGateway
