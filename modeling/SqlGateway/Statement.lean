import SqlGateway.Error
import SqlGateway.Row

/-!
# Statements

A statement hands out the rows of a result from first to last, once.  Its rows
are in memory, or come one at a time from a source that may fail.  After the
end, a failure or `close` there are no more, and the source is let go.

    fetchAll (buffered rows) = .ok rows
-/

namespace SqlGateway

/-- What a source of rows answers when it is asked. -/
inductive StreamItem where
  | row (r : Row)
  | failure (f : DriverFailure)
  | finish

inductive Supply where
  | buffered (rows : List Row)
  | streaming (items : List StreamItem)

structure Statement where
  supply : Supply := .buffered []
  /-- How many rows were handed out. -/
  fetched : Nat := 0

namespace Statement

def ofRows (rows : List Row) : Statement :=
  { supply := .buffered rows }

def ofItems (items : List StreamItem) : Statement :=
  { supply := .streaming items }

/-- Rows in memory that were not handed out yet. -/
def remaining (s : Statement) : Nat :=
  match s.supply with
  | .buffered rows => rows.length
  | .streaming _ => 0

def isStreaming (s : Statement) : Bool :=
  match s.supply with
  | .buffered _ => false
  | .streaming _ => true

/-- Drops the rows that are left. -/
def close (s : Statement) : Statement :=
  { s with supply := .buffered [] }

/-- The next row, if there is one.  A source that has come to its list's end is at its end. -/
def fetch (s : Statement) : Except DriverFailure (Option Row) × Statement :=
  match s.supply with
  | .buffered [] => (.ok none, s)
  | .buffered (r :: rest) => (.ok (some r), ⟨.buffered rest, s.fetched + 1⟩)
  | .streaming (.row r :: rest) => (.ok (some r), ⟨.streaming rest, s.fetched + 1⟩)
  | .streaming (.failure f :: _) => (.error f, s.close)
  | .streaming (.finish :: _) | .streaming [] => (.ok none, s.close)

/-- The first cell of the next row. -/
def fetchColumn (s : Statement) : Except DriverFailure (Option Value) × Statement :=
  let (result, s) := s.fetch
  (result.map fun row => row.bind (·.index? 0), s)

/-- The next row as an item of an iterator: none at the end. -/
def next (s : Statement) : Option (Except DriverFailure Row) × Statement :=
  let (result, s) := s.fetch
  match result with
  | .ok (some row) => (some (.ok row), s)
  | .ok none => (none, s)
  | .error f => (some (.error f), s)

/-- Rows up to the end or the first failure, and that failure. -/
def drainItems : List StreamItem → List Row × Option DriverFailure
  | .row r :: rest =>
    let (rows, failure) := drainItems rest
    (r :: rows, failure)
  | .failure f :: _ => ([], some f)
  | .finish :: _ | [] => ([], none)

/-- All that is left, in one go. -/
def drain (s : Statement) : List Row × Option DriverFailure :=
  match s.supply with
  | .buffered rows => (rows, none)
  | .streaming items => drainItems items

/-- All rows that are left; a failure on the way discards them. -/
def fetchAll (s : Statement) : Except DriverFailure (List Row) :=
  match s.drain with
  | (rows, none) => .ok rows
  | (_, some f) => .error f

def inspect (s : Statement) : String :=
  "Statement \x7b buffered: " ++ Decimal.ofNat s.remaining ++ ", streaming: "
    ++ boolText s.isStreaming ++ ", fetched: " ++ Decimal.ofNat s.fetched ++ " \x7d"

/-! ## Lemmas -/

theorem fetch_close (s : Statement) : s.close.fetch = (.ok none, s.close) :=
  rfl

end Statement

end SqlGateway
