import SqlGateway.Request.Basic

/-!
# Inserts, updates and deletes

Builders for the three kinds of query without a result.  `set` and `addRow`
add to what was given before.

    sql c = the text that execute c sends
-/

namespace SqlGateway

inductive CommandKind where
  | insert
  | update
  | delete
  deriving DecidableEq, Repr

def CommandKind.queryKind : CommandKind → QueryKind
  | .insert => .insert
  | .update => .update
  | .delete => .delete

structure Command extends Request where
  kind : CommandKind

namespace Command

def ofTable {σ : Type} (adapter : Adapter σ) (kind : CommandKind) (table : String) : Command :=
  { Request.ofTable adapter table with kind }

def mapRequest (c : Command) (f : Request → Request) : Command :=
  { f c.toRequest with kind := c.kind }

def mapOptions (c : Command) (f : QueryOptions → QueryOptions) : Command :=
  c.mapRequest fun r => r.mapOptions f

def withIdField (c : Command) (field : String) : Command :=
  { c with idField := field }

/-- One more assignment; anything but assignments is replaced. -/
def set (c : Command) (column : String) (value : Value) : Command :=
  c.mapOptions fun o => { o with
    what := match o.what with
      | some (.assignments pairs) => some (.assignments (pairs ++ [(column, value)]))
      | _ => some (.assignments [(column, value)]) }

/-- One more row to insert; a single row given as assignments becomes the first. -/
def addRow (c : Command) (row : List (String × Value)) : Command :=
  c.mapOptions fun o => { o with
    what := match o.what with
      | some (.rows rows) => some (.rows (rows ++ [row]))
      | some (.assignments first) => some (.rows [first, row])
      | _ => some (.rows [row]) }

variable {σ : Type}

/-- Resolves the options and runs them with another output mode. -/
def performAs (c : Command) (mode : Option OutputMode → Option OutputMode) : SessionM σ Output := do
  let o ← built c.resolved
  c.dialect.command c.kind.queryKind { o with output := mode o.output }

/-- The query text; nothing is run. -/
def sql (c : Command) : SessionM σ String := do
  MonadExcept.ofExcept (← c.performAs fun _ => some .sqlText).toSqlText

def run (c : Command) : SessionM σ Output :=
  c.performAs id

/-- Runs the query whatever its output mode: how many rows were affected. -/
def execute (c : Command) : SessionM σ Nat := do
  MonadExcept.ofExcept (← c.performAs fun _ => none).toAffected

/-- The id that the last insert on the connection made. -/
def lastId (c : Command) : SessionM σ (Option Value) :=
  match c.options.table with
  | none => throw (.queryBuild .emptyTable)
  | some table => c.dialect.insertedId table c.idField

end Command

end SqlGateway
