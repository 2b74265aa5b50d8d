import SqlGateway.Adapter
import SqlGateway.Exchange.Query

/-!
# Results by name

The names of the forms in which a caller can ask for a result, and of the kinds
of native failures.
-/

namespace SqlGateway

def Category.name : Category → String
  | .syntaxError => "Syntax"
  | .semantic => "Semantic"
  | .execution => "Execution"
  | .transaction => "Transaction"
  | .connection => "Connection"
  | .unknownDatabase => "UnknownDatabase"
  | .unknown => "Unknown"

def Fetch.ofName? : String → Option Fetch
  | "exec" => some .affected
  | "batch" => some .batch
  | "statement" => some .statement
  | "all" => some .rows
  | "one" => some .firstRow
  | "first_column" => some .firstValue
  | _ => none

/-- The same result in the named form. -/
def Output.into? (o : Output) : String → Option (Except SqlError Output)
  | "sql" => some (o.toSqlText.map .sqlText)
  | "rows" => some (o.toRows.map .rows)
  | "row" => some (o.toRow.map .row)
  | "objects" => some (o.toObjects.map .objects)
  | "statement" => some (o.toStatement.map .statement)
  | "affected" => some (o.toAffected.map .affected)
  | _ => none

/-- The same result in the named form. -/
def Fetched.into? (f : Fetched) : String → Option (Except SqlError Fetched)
  | "affected" => some (f.toAffected.map .affected)
  | "statement" => some (f.toStatement.map .statement)
  | "rows" => some (f.toRows.map .rows)
  | "row" => some (f.toRow.map .row)
  | "value" => some (f.toValue.map .value)
  | _ => none

end SqlGateway
