import SqlGateway.Exchange.Value
import SqlGateway.Script

/-!
# Scripts as JSON

A script is a list of rules, each an object whose first member names its kind:
rows for a query, an affected count, a failure, a failure to connect, or a
result stream.

    Script.ofJson? rules = the rules, one after the other
-/

namespace SqlGateway

namespace StreamItem

/-- A row, a failure, or null for the end. -/
def ofJson? : Json → Option StreamItem
  | .null => some .finish
  | .array cells => (Row.ofTagged? (.array cells)).map .row
  | j => do
    return .failure
      { message := ← j.text? "fail", sqlstate := ← j.optional? Json.asString? "sqlstate" }

end StreamItem

namespace Script

/-- The script with one rule more. -/
def addRule? (s : Script) (j : Json) : Option Script := do
  let rule (pattern : String) (r : Response) : Script :=
    { s with rules := s.rules ++ [(pattern, r)] }
  if let some pattern := j.text? "on_query" then
    return rule pattern (.rows (← (← j.member? "rows").listOf? Row.ofTagged?))
  else if let some pattern := j.text? "on_execute" then
    return rule pattern (.affected (← (← j.member? "affected").asNat?))
  else if let some pattern := j.text? "fail_on" then
    return rule pattern (.failure
      { message := ← j.text? "message", sqlstate := ← j.optional? Json.asString? "sqlstate" })
  else if let some message := j.text? "fail_connect" then
    return { s with connectFailure := some message }
  else
    let items ← (← j.member? "items").listOf? StreamItem.ofJson?
    return { s with streams := s.streams ++ [(← j.text? "stream", items)] }

def ofJson? (rules : List Json) : Option Script :=
  rules.foldlM addRule? {}

end Script

end SqlGateway
