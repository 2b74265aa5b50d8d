import SqlGateway.Session
import SqlGateway.Text.Pieces

/-!
# Scripted connections

Canned answers for statements that contain a pattern, for tests and dry runs.
The first rule whose pattern occurs in a statement answers it; the empty
pattern occurs in all.  A query without a rule has no rows, a command without
one affects none.  Every statement is logged, whatever becomes of it.

    execute sql = affected n for a rule `affected n`, the number of rows for a rule `rows`
-/

namespace SqlGateway

inductive Response where
  | rows (items : List Row)
  | affected (n : Nat)
  | failure (f : DriverFailure)

structure Script where
  rules : List (String × Response) := []
  /-- Result streams for queries that no rule makes fail; the first whose pattern occurs counts. -/
  streams : List (String × List StreamItem) := []
  /-- Every attempt to connect fails with this message. -/
  connectFailure : Option String := none

/-- What a script has seen, the oldest statement first. -/
structure ScriptLog where
  statements : List String := []
  connects : Nat := 0

namespace Script

def matching? {α : Type} (sql : String) (rules : List (String × α)) : Option α :=
  (rules.find? fun rule => Text.contains rule.1 sql).map (·.2)

/-- Logs a statement and looks up its answer. -/
def respond (s : Script) (sql : String) : Native ScriptLog (Option Response) := do
  modify fun log => { log with statements := log.statements ++ [sql] }
  match matching? sql s.rules with
  | some (.failure f) => throw f
  | response => return response

def execute (s : Script) (sql : String) : Native ScriptLog Nat := do
  match ← s.respond sql with
  | some (.affected n) => return n
  | some (.rows items) => return items.length
  | _ => return 0

def query (s : Script) (sql : String) : Native ScriptLog Statement := do
  let response ← s.respond sql
  match matching? sql s.streams, response with
  | some items, _ => return .ofItems items
  | none, some (.rows items) => return .ofRows items
  | none, _ => return .ofRows []

def connection (s : Script) : Connection ScriptLog where
  execute := s.execute
  query := s.query
  batch sql := do let _ ← s.execute sql

/-- The SQLSTATE of a failure to connect. -/
def connectState : String := "08001"

def connector (s : Script) : Connector ScriptLog := fun _ => do
  match s.connectFailure with
  | some message => throw { message, sqlstate := some connectState }
  | none =>
    modify fun log => { log with connects := log.connects + 1 }
    return s.connection

end Script

end SqlGateway
