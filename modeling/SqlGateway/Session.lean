import SqlGateway.Config.Basic
import SqlGateway.Statement

/-!
# Sessions

A session is one named instance: its configuration and, once something was run
on it, its connection.  `σ` is the world that native drivers act on.  Every
native failure becomes a `SqlError` here, and nowhere else.

    native sql act = connect unless connected; act; a failure is one "while" sql
-/

namespace SqlGateway

/-- What a native driver does: it acts on the world and may fail. -/
abbrev Native (σ : Type) : Type → Type :=
  ExceptT DriverFailure (StateM σ)

/-- An open connection to a server. -/
structure Connection (σ : Type) where
  /-- Runs a statement without a result: how many rows it affected. -/
  execute : String → Native σ Nat
  query : String → Native σ Statement
  /-- Runs control statements as they are. -/
  batch : String → Native σ Unit

abbrev Connector (σ : Type) : Type :=
  InstanceConfig → Native σ (Connection σ)

/-- The column that identifies a row when nothing else is said. -/
def defaultIdField : String := "id"

structure Session (σ : Type) where
  name : String
  config : InstanceConfig
  connector : Connector σ
  connection : Option (Connection σ) := none
  idField : String := defaultIdField
  inTransaction : Bool := false

/-- A session and the world beyond it. -/
structure Channel (σ : Type) where
  session : Session σ
  world : σ

abbrev SessionM (σ : Type) : Type → Type :=
  ExceptT SqlError (StateM (Channel σ))

namespace Session

variable {σ α : Type}

def isConnected (s : Session σ) : Bool :=
  s.connection.isSome

/-- Runs a native action; a failure is a failure of `action`. -/
def lift (action : String) (act : Native σ α) : SessionM σ α := do
  let c ← get
  let (result, world) := act.run c.world
  set { c with world }
  match result with
  | .ok a => return a
  | .error f => throw (.ofFailure f action)

def current : SessionM σ (Session σ) := do
  return (← get).session

def update (f : Session σ → Session σ) : SessionM σ Unit :=
  modify fun c => { c with session := f c.session }

def connectAction (name : String) : String :=
  "connecting to instance \"" ++ name ++ "\""

/-- Opens the connection unless it is open. -/
def connected : SessionM σ Unit := do
  let s ← current
  if s.isConnected then return
  let connection ← lift (connectAction s.name) (s.connector s.config)
  update fun s => { s with connection := some connection }

/-- The one way to the server. -/
def native (sql : String) (act : Connection σ → Native σ α) : SessionM σ α := do
  connected
  let s ← current
  match s.connection with
  | some connection => lift sql (act connection)
  | none => throw (.queryBuild (.notConnected s.name))

def execute (sql : String) : SessionM σ Nat :=
  native sql (·.execute sql)

def batch (sql : String) : SessionM σ Unit :=
  native sql (·.batch sql)

def statement (sql : String) : SessionM σ Statement :=
  native sql (·.query sql)

def rows (sql : String) : SessionM σ (List Row) :=
  native sql fun connection => do
    let s ← connection.query sql
    MonadExcept.ofExcept s.fetchAll

/-- The first row; the others are dropped. -/
def firstRow (sql : String) : SessionM σ (Option Row) :=
  native sql fun connection => do
    let s ← connection.query sql
    MonadExcept.ofExcept s.fetch.1

/-- The first cell of the first row. -/
def firstValue (sql : String) : SessionM σ (Option Value) :=
  native sql fun connection => do
    let s ← connection.query sql
    MonadExcept.ofExcept s.fetchColumn.1

/-- A transaction is open from a successful `begin` on; there is one at a time. -/
def begin (sql : String) : SessionM σ Unit := do
  let s ← current
  if s.inTransaction then throw (.queryBuild (.transactionOpen s.name))
  batch sql
  update fun s => { s with inTransaction := true }

def requireTransaction : SessionM σ Unit := do
  let s ← current
  if !s.inTransaction then throw (.queryBuild (.noTransaction s.name))

def commit (sql : String) : SessionM σ Unit := do
  requireTransaction
  batch sql
  update fun s => { s with inTransaction := false }

/-- The session leaves the transaction whether or not the server does. -/
def rollback (sql : String) : SessionM σ Unit := do
  requireTransaction
  update fun s => { s with inTransaction := false }
  batch sql

end Session

/-- How raw query text is run and what comes back. -/
inductive Fetch where
  | affected
  | batch
  | statement
  | rows
  | firstRow
  | firstValue
  deriving DecidableEq, Repr

inductive Fetched where
  | affected (n : Nat)
  | done
  | statement (s : Statement)
  | rows (items : List Row)
  | row (item : Option Row)
  | value (item : Option Value)

namespace Fetched

def inspect : Fetched → String
  | .affected n => "Affected(" ++ Decimal.ofNat n ++ ")"
  | .done => "Done"
  | .statement s => "Statement(" ++ s.inspect ++ ")"
  | .rows items => "Rows(" ++ inspectList (items.map Row.inspect) ++ ")"
  | .row item => "Row(" ++ inspectOption (item.map Row.inspect) ++ ")"
  | .value item => "Value(" ++ inspectOption (item.map Value.inspect) ++ ")"

def mismatch {α : Type} (f : Fetched) (wanted : Product) : Except SqlError α :=
  .error (.queryBuild (.unexpectedResult wanted f.inspect))

def toAffected : Fetched → Except SqlError Nat
  | .affected n => .ok n
  | f => f.mismatch .affected

def toStatement : Fetched → Except SqlError Statement
  | .statement s => .ok s
  | f => f.mismatch .statement

def toRows : Fetched → Except SqlError (List Row)
  | .rows items => .ok items
  | f => f.mismatch .rows

def toRow : Fetched → Except SqlError (Option Row)
  | .row item => .ok item
  | f => f.mismatch .row

def toValue : Fetched → Except SqlError (Option Value)
  | .value item => .ok item
  | f => f.mismatch .value

end Fetched

namespace Session

variable {σ α : Type}

/-- Runs query text as it is. -/
def run (sql : String) : Fetch → SessionM σ Fetched
  | .affected => do return .affected (← execute sql)
  | .batch => do
    batch sql
    return .done
  | .statement => do return .statement (← statement sql)
  | .rows => do return .rows (← rows sql)
  | .firstRow => do return .row (← firstRow sql)
  | .firstValue => do return .value (← firstValue sql)

/-- Runs query text and reads what comes back. -/
def runAs (sql : String) (fetch : Fetch) (read : Fetched → Except SqlError α) : SessionM σ α := do
  MonadExcept.ofExcept (read (← run sql fetch))

end Session

end SqlGateway
