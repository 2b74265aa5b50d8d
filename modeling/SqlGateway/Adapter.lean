import SqlGateway.Dialect.Render
import SqlGateway.Session

/-!
# Adapters

An adapter is a dialect on a session.  An operation lays the caller's options
on the defaults of its kind, renders them, and runs the text unless the text
is all that is wanted.  Nothing is sent when the text cannot be built.

    select d o = render, then the fetch that the output mode of o names
-/

namespace SqlGateway

structure Adapter (σ : Type) where
  dialect : Dialect
  session : Session σ

/-- The adapters of a process, by their numbers, and the world beyond them. -/
structure AdapterStore (σ : Type) where
  adapters : List (Adapter σ) := []
  world : σ

namespace AdapterStore

variable {σ : Type}

/-- The number of an adapter that is added. -/
def add (dialect : Dialect) (session : Session σ) : StateM (AdapterStore σ) Nat :=
  modifyGet fun s => (s.adapters.length, { s with adapters := s.adapters ++ [⟨dialect, session⟩] })

/-- Takes back the session of an adapter, and the world. -/
def putBack (s : AdapterStore σ) (number : Nat) (c : Channel σ) : AdapterStore σ where
  adapters := s.adapters.modify number fun a => { a with session := c.session }
  world := c.world

end AdapterStore

/-- Result of an operation. -/
inductive Output where
  | sqlText (sql : String)
  | rows (items : List Row)
  | row (item : Option Row)
  | objects (items : List Json)
  | statement (s : Statement)
  | affected (n : Nat)

namespace Output

def product : Output → Product
  | .sqlText _ => .sqlText
  | .rows _ => .rows
  | .row _ => .singleRow
  | .objects _ => .objects
  | .statement _ => .statement
  | .affected _ => .affected

def mismatch {α : Type} (o : Output) (wanted : Product) : Except SqlError α :=
  .error (.queryBuild (.unexpectedOutput wanted o.product))

def toSqlText : Output → Except SqlError String
  | .sqlText sql => .ok sql
  | o => o.mismatch .sqlText

/-- A single row counts as rows. -/
def toRows : Output → Except SqlError (List Row)
  | .rows items => .ok items
  | .row item => .ok item.toList
  | o => o.mismatch .rows

/-- Of several rows the first counts. -/
def toRow : Output → Except SqlError (Option Row)
  | .row item => .ok item
  | .rows items => .ok items.head?
  | o => o.mismatch .singleRow

def toObjects : Output → Except SqlError (List Json)
  | .objects items => .ok items
  | o => o.mismatch .objects

def toStatement : Output → Except SqlError Statement
  | .statement s => .ok s
  | o => o.mismatch .statement

def toAffected : Output → Except SqlError Nat
  | .affected n => .ok n
  | o => o.mismatch .affected

end Output

/-- A failure to build is a failure of the operation. -/
def built {σ α : Type} (r : Except BuildError α) : SessionM σ α :=
  match r with
  | .ok a => pure a
  | .error cause => throw (.queryBuild cause)

namespace Dialect

variable {σ : Type}

/-- Both modes for a single row ask the server for one row. -/
def isSingle : OutputMode → Bool
  | .object | .firstRow => true
  | _ => false

/-- The text of a query under the session's id field. -/
def compose (d : Dialect) (kind : QueryKind) (o : QueryOptions) : SessionM σ String := do
  let s ← Session.current
  built (d.render kind s.idField o)

def select (d : Dialect) (options : QueryOptions) : SessionM σ Output := do
  let o := options.layeredOver (.defaults .select)
  let mode := o.output.getD .rows
  let sql ← d.compose .select (if isSingle mode then { o with number := some 1 } else o)
  match mode with
  | .sqlText => return .sqlText sql
  | .statement => return .statement (← Session.runAs sql .statement Fetched.toStatement)
  | .firstRow | .object => return .row (← Session.runAs sql .firstRow Fetched.toRow)
  | .rows => return .rows (← Session.runAs sql .rows Fetched.toRows)
  | .objects =>
    let rows ← Session.runAs sql .rows Fetched.toRows
    return .objects (rows.map Row.toJson)

/-- A query without a result. -/
def command (d : Dialect) (kind : QueryKind) (options : QueryOptions) : SessionM σ Output := do
  let o := options.layeredOver (.defaults kind)
  let sql ← d.compose kind o
  if o.output = some .sqlText then return .sqlText sql
  return .affected (← Session.runAs sql .affected Fetched.toAffected)

def perform (d : Dialect) (kind : QueryKind) (options : QueryOptions) : SessionM σ Output :=
  match kind with
  | .select => d.select options
  | kind => d.command kind options

/-- The id that the last insert made, for a given table and id field. -/
def insertedId (d : Dialect) (table idField : String) : SessionM σ (Option Value) := do
  let value ← Session.runAs (d.lastInsertIdSql table idField) .firstValue Fetched.toValue
  return value.filter fun v => !v.isNull

def lastInsertId (d : Dialect) (table : String) : SessionM σ (Option Value) := do
  let s ← Session.current
  d.insertedId table s.idField

def beginTransaction (d : Dialect) : SessionM σ Unit :=
  Session.begin d.beginSql

def commit (d : Dialect) : SessionM σ Unit :=
  Session.commit d.commitSql

def rollback (d : Dialect) : SessionM σ Unit :=
  Session.rollback d.rollbackSql

end Dialect

end SqlGateway
