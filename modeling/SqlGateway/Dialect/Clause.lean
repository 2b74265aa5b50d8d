import SqlGateway.Dialect.Basic
import SqlGateway.Query.Options

/-!
# Clauses

The parts of a statement.  A clause with nothing in it is absent; the parts of
a statement are joined by single spaces.

    joinedConditions cs = the conditions that are not blank, trimmed, joined by " AND "
-/

namespace SqlGateway

/-- A keyword that is written when its flag is set. -/
def flagged (flag : Option Bool) (word : String) : List String :=
  if flag.getD false then [word] else []

/-- `word text` for a text that is not blank. -/
def worded (word : String) (text : Option String) : List String :=
  match text.bind Text.nonBlank? with
  | some s => [word ++ " " ++ s]
  | none => []

def joinedConditions? (conditions : List String) : Option String :=
  match conditions.filterMap Text.nonBlank? with
  | [] => none
  | texts => some (" AND ".intercalate texts)

def whereClause (conditions : List String) : List String :=
  (joinedConditions? conditions).toList.map ("WHERE " ++ ·)

/-- The same under another keyword: the first `WHERE` of the text is the keyword. -/
def havingClause (conditions : List String) : List String :=
  (whereClause conditions).map (Text.replaceFirst "WHERE" "HAVING")

theorem havingClause_eq (conditions : List String) :
    havingClause conditions = (joinedConditions? conditions).toList.map ("HAVING " ++ ·) := by
  unfold havingClause whereClause
  rw [List.map_map]
  refine List.map_congr_left fun s _ => ?_
  show Text.replaceFirst "WHERE" "HAVING" ("WHERE " ++ s) = "HAVING " ++ s
  rw [show "WHERE " = "WHERE" ++ " " from rfl, show "HAVING " = "HAVING" ++ " " from rfl,
    String.append_assoc, String.append_assoc, Text.replaceFirst_append]

def groupByClause (o : QueryOptions) : List String :=
  worded "GROUP BY" o.groupBy

def orderByClause (o : QueryOptions) : List String :=
  worded "ORDER BY" o.orderBy

def aliasPart (o : QueryOptions) : List String :=
  (o.tableAlias.bind Text.nonBlank?).toList

/-- A table that starts with a parenthesis is a query of its own. -/
def isDerived (table : String) : Bool :=
  Text.startsWith "(" table

namespace Dialect

def tableSql (d : Dialect) (table : String) : String :=
  if isDerived table then table else d.quoteIdentifier table

/-- What a select reads: the given fields, else all columns of the table. -/
def selectList (d : Dialect) (o : QueryOptions) (table : String) : Except BuildError String :=
  let all := if isDerived table then "*" else
    (o.tableAlias.bind Text.nonBlank?).getD (d.tableSql table) ++ ".*"
  match o.what with
  | none => .ok all
  | some fields =>
    if fields.isEmpty then .ok all
    else match fields with
      | .raw sql => .ok sql
      | .list items => .ok (", ".intercalate items)
      | .assignments _ | .rows _ => .error .assignmentsInSelect

/-- What an update sets. -/
def setList (d : Dialect) : Fields → Except BuildError String
  | .raw sql => .ok sql
  | .list items => .ok (", ".intercalate items)
  | .assignments pairs => .ok (d.assignments pairs)
  | .rows _ => .error .rowsInUpdate

def joinText (d : Dialect) : Join → String
  | .raw sql => sql
  | .spec s =>
    (if s.mandatory then "INNER" else "LEFT") ++ " JOIN " ++ d.quoteIdentifier s.table ++ " "
      ++ s.tableAlias ++ " ON " ++ s.condition

def joinClause (d : Dialect) (joins : List Join) : List String :=
  match (joins.map d.joinText).filter fun j => !Text.isBlankText j with
  | [] => []
  | texts => [", ".intercalate texts]

/-- The position of the first row whose columns are not `columns`, in this order. -/
def unevenRow? (columns : List String) (rows : List (List (String × Value))) : Option Nat :=
  rows.findIdx? fun row => row.map (·.1) != columns

def rowValues (d : Dialect) (row : List (String × Value)) : String :=
  "(" ++ ", ".intercalate (row.map fun cell => d.literal cell.2) ++ ")"

/-- The columns and the `VALUES` of inserted rows, which must all have one shape. -/
def insertValues (d : Dialect) (rows : List (List (String × Value))) :
    Except BuildError (List String) :=
  match rows with
  | [] => .error .noField
  | first :: _ =>
    let columns := first.map (·.1)
    match unevenRow? columns rows with
    | some index => .error (.unevenRow index)
    | none => .ok
      ["(" ++ ", ".intercalate (columns.map d.quoteIdentifier) ++ ")",
       "VALUES " ++ ", ".intercalate (rows.map d.rowValues)]

end Dialect

namespace Page

/-- Rows are numbered from 1 and the number stands in the column `rownum`. -/
def rowBound (p : Page) : String :=
  if 0 < p.offset then
    "BETWEEN " ++ Decimal.ofInt p.offset ++ " AND "
      ++ Decimal.ofInt (min (p.offset + p.count) Decimal.greatestInt64)
  else "<= " ++ Decimal.ofInt p.count

end Page

end SqlGateway
