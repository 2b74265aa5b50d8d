import SqlGateway.Dialect.Clause

/-!
# Statements as text

One function a kind of query.  Each checks what the query needs and joins its
clauses by spaces.  SQL Server has no offset clause: a paged query numbers its
rows in an inner query and bounds the number in the outer one.

    renderSelect d id o = .ok s   iff   o names a table and what it selects is a field list
-/

namespace SqlGateway.Dialect

def sentence (parts : List String) : String :=
  " ".intercalate parts

/-- The order in which rows are numbered: the one asked for, else by the id field. -/
def numberingOrder (defaultIdField : String) (o : QueryOptions) : String :=
  "ORDER BY " ++
    ((o.orderBy.bind Text.nonBlank?).getD ((o.idField.bind Text.nonBlank?).getD defaultIdField))

def rowNumberColumn (defaultIdField : String) (o : QueryOptions) : String :=
  "ROW_NUMBER() OVER(" ++ numberingOrder defaultIdField o ++ ") AS rownum"

/-- A select up to its `HAVING`. -/
def selectHead (d : Dialect) (o : QueryOptions) (table what : String) : List String :=
  ["SELECT"] ++ flagged o.distinct "DISTINCT" ++ [what, "FROM", d.tableSql table] ++ aliasPart o
    ++ d.joinClause o.joins ++ whereClause o.conditions ++ groupByClause o
    ++ havingClause o.having

/-- The bound on the number of rows, for servers that have a clause for it. -/
def limitClause (d : Dialect) (o : QueryOptions) : List String :=
  match o.page? with
  | none => []
  | some page =>
    let count := Decimal.ofInt page.count
    let offset := Decimal.ofInt page.offset
    match d with
    | .mysql => if 0 < page.offset then ["LIMIT " ++ offset ++ "," ++ count] else ["LIMIT " ++ count]
    | .mssql => []
    | .pgsql =>
      if 0 < page.offset then ["LIMIT " ++ count, "OFFSET " ++ offset] else ["LIMIT " ++ count]

def renderSelect (d : Dialect) (defaultIdField : String) (o : QueryOptions) :
    Except BuildError String := do
  let table ← o.tableName
  let what ← d.selectList o table
  match d, o.page? with
  | .mssql, some page =>
    let numbered := what ++ ", " ++ rowNumberColumn defaultIdField o
    return "SELECT * FROM (" ++ sentence (d.selectHead o table numbered)
      ++ ") AS a WHERE a.rownum " ++ page.rowBound
  | _, _ =>
    return sentence (d.selectHead o table what ++ orderByClause o ++ d.limitClause o)

/-- MySQL bounds the rows that an update or a delete touches, without an offset. -/
def rowCountClause (o : QueryOptions) : List String :=
  match o.page? with
  | some page => ["LIMIT " ++ Decimal.ofInt page.count]
  | none => []

/-- The numbered rows of a table under the name `a`, before a paged update or delete. -/
def numberedRows (d : Dialect) (defaultIdField : String) (o : QueryOptions) (table : String) :
    String :=
  "WITH a AS (" ++ sentence
    (["SELECT *, " ++ rowNumberColumn defaultIdField o, "FROM", d.quoteIdentifier table]
      ++ whereClause o.conditions) ++ ")"

def renderUpdate (d : Dialect) (defaultIdField : String) (o : QueryOptions) :
    Except BuildError String := do
  let table ← o.tableName
  let fields ← o.someFields
  let sets ← d.setList fields
  let target := d.quoteIdentifier table
  match d with
  | .mysql =>
    return sentence (["UPDATE"] ++ flagged o.lowPriority "LOW_PRIORITY" ++ flagged o.ignore "IGNORE"
      ++ [target, "SET", sets] ++ whereClause o.conditions ++ orderByClause o ++ rowCountClause o)
  | .mssql =>
    match o.page? with
    | some page =>
      return d.numberedRows defaultIdField o table ++ " UPDATE a SET " ++ sets
        ++ " WHERE a.rownum " ++ page.rowBound
    | none => return sentence (["UPDATE", target, "SET", sets] ++ whereClause o.conditions)
  | .pgsql =>
    return sentence (["UPDATE"] ++ flagged o.only "ONLY" ++ [target, "SET", sets]
      ++ whereClause o.conditions)

/-- The words before the table of an insert. -/
def insertWords (d : Dialect) (o : QueryOptions) : List String :=
  match d with
  | .mysql =>
    ["INSERT"]
      ++ (if o.lowPriority.getD false then ["LOW_PRIORITY"] else flagged o.delayed "DELAYED")
      ++ flagged o.ignore "IGNORE" ++ flagged o.into "INTO"
  | .mssql => ["INSERT"] ++ flagged o.into "INTO"
  | .pgsql => ["INSERT INTO"]

/-- What is inserted; MySQL sets the columns of a single row by name. -/
def insertSource (d : Dialect) : Fields → Except BuildError (List String)
  | .raw sql => .ok [sql]
  | .list _ => .error .listInInsert
  | .assignments pairs =>
    match d with
    | .mysql => .ok ["SET " ++ d.assignments pairs]
    | .mssql | .pgsql => d.insertValues [pairs]
  | .rows items => d.insertValues items

def renderInsert (d : Dialect) (o : QueryOptions) : Except BuildError String := do
  let table ← o.tableName
  let fields ← o.someFields
  let source ← d.insertSource fields
  return sentence (d.insertWords o ++ [d.quoteIdentifier table] ++ source)

def renderDelete (d : Dialect) (defaultIdField : String) (o : QueryOptions) :
    Except BuildError String := do
  let table ← o.tableName
  let target := d.quoteIdentifier table
  match d with
  | .mysql =>
    return sentence (["DELETE"] ++ flagged o.lowPriority "LOW_PRIORITY" ++ flagged o.quick "QUICK"
      ++ flagged o.ignore "IGNORE" ++ ["FROM", target] ++ whereClause o.conditions
      ++ orderByClause o ++ rowCountClause o)
  | .mssql =>
    match o.page? with
    | some page =>
      return d.numberedRows defaultIdField o table ++ " DELETE FROM a WHERE a.rownum "
        ++ page.rowBound
    | none => return sentence (["DELETE FROM", target] ++ whereClause o.conditions)
  | .pgsql =>
    return sentence (["DELETE FROM"] ++ flagged o.only "ONLY" ++ [target]
      ++ whereClause o.conditions)

def render (d : Dialect) (kind : QueryKind) (defaultIdField : String) (o : QueryOptions) :
    Except BuildError String :=
  match kind with
  | .select => d.renderSelect defaultIdField o
  | .update => d.renderUpdate defaultIdField o
  | .insert => d.renderInsert o
  | .delete => d.renderDelete defaultIdField o

end SqlGateway.Dialect
