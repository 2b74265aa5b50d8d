import SqlGateway.Condition.Json
import SqlGateway.Exchange.Value

/-!
# Conditions by their constructors

An object with one member names the way to make a condition: query text, a
comparison, a group, a term by its parts, or the list form as JSON or as text.
Reading one may fail to build the condition.

    toJson writes the ways raw, term, or, and
-/

namespace SqlGateway

def Term.toJson (t : Term) : Json :=
  .ofMembers [("identifier", .string t.identifier), ("operator", Json.orNull .string t.operator),
    ("has_value", .bool t.value.isSome), ("value", Json.orNull Value.tagged t.value),
    ("escape", .bool t.escape)]

/-- A value that is null is given; only one that is left out is not. -/
def Term.ofParts? (j : Json) : Option Term := do
  let value ← match j.member? "value" with
    | none => pure none
    | some v => (Value.ofTagged? v).map some
  return { identifier := ← j.text? "identifier"
           operator := ← j.optional? Json.asString? "operator"
           value, escape := !(← j.withDefault? Json.asBool? "unescaped" false) }

namespace Condition

mutual

def toJson : Condition → Json
  | .raw sql => .object [("raw", .string sql)]
  | .term t => .object [("term", t.toJson)]
  | .or items => .object [("or", .array (toJsonItems items))]
  | .and items => .object [("and", .array (toJsonItems items))]

def toJsonItems : List Condition → List Json
  | [] => []
  | c :: cs => toJson c :: toJsonItems cs

end

/-- A condition that is no group. -/
def ofWay? (way : String) (j : Json) : Option (Except BuildError Condition) :=
  match way, j with
  | "eq", .array [name, v] | "pair", .array [name, v] => do
    return .ok (.eq (← name.asString?) (← Value.ofTagged? v))
  | "compare", .array [name, op, v] | "triple", .array [name, op, v] => do
    return .ok (.compare (← name.asString?) (← op.asString?) (← Value.ofTagged? v))
  | "raw", .string sql | "str", .string sql | "string", .string sql => some (.ok (.raw sql))
  | "json", j => some (ofJson j)
  | "json_text", .string s => some (parse s)
  | "term_text", .string s => some ((Term.parse s).map .term)
  | "term", j => (Term.ofParts? j).map fun t => .ok (.term t)
  | _, _ => none

mutual

def ofWays? : Json → Option (Except BuildError Condition)
  | .object [("or", .array items)] => (ofWaysItems? items).map fun r => r.map .or
  | .object [("and", .array items)] => (ofWaysItems? items).map fun r => r.map .and
  | .object [(way, j)] => ofWay? way j
  | _ => none

/-- The first failure counts. -/
def ofWaysItems? : List Json → Option (Except BuildError (List Condition))
  | [] => some (.ok [])
  | j :: js => do
    let first ← ofWays? j
    let rest ← ofWaysItems? js
    return do return (← first) :: (← rest)

end

end Condition

end SqlGateway
