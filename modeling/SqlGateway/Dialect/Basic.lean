import SqlGateway.Text.Pieces
import SqlGateway.Value.Display

/-!
# Dialects

How each database server spells names, literals and transactions.  A quote
character inside a quoted name or text is written twice; MySQL also doubles
the backslash.  MySQL and PostgreSQL quote each part of a dotted name.

    literal d (.list vs) = "(" ++ literals joined by "," ++ ")"
-/

namespace SqlGateway

inductive Dialect where
  | mysql
  | mssql
  | pgsql
  deriving DecidableEq, Repr

namespace Dialect

/-- The key that a configuration names the dialect by. -/
def key : Dialect → String
  | .mysql => "mysql"
  | .mssql => "mssql"
  | .pgsql => "pgsql"

def quoteIdentifier (d : Dialect) (name : String) : String :=
  match d with
  | .mysql => ".".intercalate ((Text.splitAt '.' name).map (Text.enclosed '\x60'))
  | .mssql => Text.enclosed '\x22' name
  | .pgsql => ".".intercalate ((Text.splitAt '.' name).map (Text.enclosed '\x22'))

def quoteText (d : Dialect) (s : String) : String :=
  match d with
  | .mysql => Text.enclosed '\x27' (Text.doubled '\\' s)
  | .mssql | .pgsql => Text.enclosed '\x27' s

def boolLiteral (d : Dialect) (b : Bool) : String :=
  match d with
  | .pgsql => if b then "TRUE" else "FALSE"
  | .mysql | .mssql => if b then "1" else "0"

def bytesLiteral (d : Dialect) (bytes : List UInt8) : String :=
  let digits := Text.Hex.encode .upper bytes
  match d with
  | .mysql => "X'" ++ digits ++ "'"
  | .mssql => "0x" ++ digits
  | .pgsql => "'\\x" ++ digits ++ "'"

mutual

/-- The value inside a query text.  An infinity or a NaN has no literal and becomes `NULL`. -/
def literal (d : Dialect) : Value → String
  | .null => "NULL"
  | .bool b => d.boolLiteral b
  | .int i => Decimal.ofInt i
  | .uint n => Decimal.ofNat n
  | .float x =>
    if (Decimal.Binary.ofFloat x).isFinite then Decimal.write .plain x else "NULL"
  | .text s => d.quoteText s
  | .bytes b => d.bytesLiteral b
  | .json j => d.quoteText j.compact
  | .list items => "(" ++ ",".intercalate (literalItems d items) ++ ")"
  | .date day => d.quoteText day.text
  | .time t => d.quoteText t.text
  | .datetime t => d.quoteText t.text

def literalItems (d : Dialect) : List Value → List String
  | [] => []
  | v :: vs => literal d v :: literalItems d vs

end

def literals (d : Dialect) (values : List Value) : String :=
  ",".intercalate (d.literalItems values)

def assignment (d : Dialect) (pair : String × Value) : String :=
  d.quoteIdentifier pair.1 ++ "=" ++ d.literal pair.2

def assignments (d : Dialect) (pairs : List (String × Value)) : String :=
  ", ".intercalate (pairs.map d.assignment)

def lastInsertIdSql (d : Dialect) (table idField : String) : String :=
  match d with
  | .mysql => "SELECT LAST_INSERT_ID()"
  | .mssql => "SELECT SCOPE_IDENTITY() AS LAST_ID"
  | .pgsql =>
    "SELECT currval(pg_get_serial_sequence(" ++ d.quoteText table ++ ", " ++ d.quoteText idField
      ++ "))"

def beginSql : Dialect → String
  | .mysql => "START TRANSACTION"
  | .mssql => "BEGIN TRANSACTION"
  | .pgsql => "BEGIN"

def commitSql : Dialect → String
  | .mysql | .pgsql => "COMMIT"
  | .mssql => "COMMIT TRANSACTION"

def rollbackSql : Dialect → String
  | .mysql | .pgsql => "ROLLBACK"
  | .mssql => "ROLLBACK TRANSACTION"

end Dialect

end SqlGateway
