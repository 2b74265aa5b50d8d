import SqlGateway.Request.Select

/-!
# Cursors

A cursor goes through a select once.  The query runs at the first fetch.  A
record is an object when the request asks for objects or for nothing special,
else a row.  `next` skips what the filters refuse, and numbers what they accept
from 0 on.

    after a failure of the query or of a fetch, and after the end, there is nothing more;
    a row that makes no entity is a failure of its own, and the next row follows
-/

namespace SqlGateway

inductive CursorState where
  | unstarted
  | fetching (statement : Statement) (hydrate : Bool)
  | exhausted

structure Cursor (ε : Type) where
  request : Select ε
  state : CursorState := .unstarted
  /-- The number that the next accepted record gets. -/
  position : Nat := 0

/-- A cursor and the desk it works at. -/
structure Reading (σ ε : Type) where
  cursor : Cursor ε
  desk : Desk σ ε

abbrev ReadingM (σ ε : Type) : Type → Type :=
  ExceptT SqlError (StateM (Reading σ ε))

namespace Cursor

variable {σ ε α : Type}

def isExhausted (c : Cursor ε) : Bool :=
  match c.state with
  | .exhausted => true
  | _ => false

/-- Whether records are objects. -/
def isHydrating : Option OutputMode → Bool
  | none | some .object | some .objects => true
  | _ => false

def onDesk (act : DeskM σ ε α) : ReadingM σ ε α := do
  let r ← get
  let (result, desk) := act.run r.desk
  set { r with desk }
  MonadExcept.ofExcept result

def setState (state : CursorState) : ReadingM σ ε Unit :=
  modify fun r => { r with cursor := { r.cursor with state } }

/-- Runs the query. -/
def openStatement (s : Select ε) : DeskM σ ε Statement := do
  let output ← Desk.onSession (s.performWith fun o => { o with output := some .statement })
  MonadExcept.ofExcept output.toStatement

/-- Runs the query unless it ran already.  A panic does not come back to the cursor, which is as
new then. -/
def start : ReadingM σ ε Unit := do
  let c := (← get).cursor
  match c.state with
  | .unstarted =>
    let statement ← tryCatch (onDesk (openStatement c.request)) fun e => do
      unless e.isPanic do setState .exhausted
      throw e
    setState (.fetching statement (isHydrating c.request.options.output))
  | _ => return

/-- What a failure to fetch was a failure of. -/
def fetchAction : String := "fetching the next select row"

/-- The next record, whatever the filters say of it. -/
def fetch : ReadingM σ ε (Option (Record ε)) := do
  start
  let c := (← get).cursor
  match c.state with
  | .fetching statement hydrate =>
    match statement.fetch with
    | (.error f, _) =>
      setState .exhausted
      throw (.ofFailure f fetchAction)
    | (.ok none, _) =>
      setState .exhausted
      return none
    | (.ok (some row), statement) =>
      setState (.fetching statement hydrate)
      if hydrate then return some (.object (← onDesk (Desk.load row c.request.usingCache)))
      else return some (.row row)
  | _ => return none

/-- How many more fetches can yield a record. -/
def pending (c : Cursor ε) : Nat :=
  match c.state with
  | .fetching statement _ =>
    match statement.supply with
    | .buffered rows => rows.length
    | .streaming items => items.length
  | _ => 0

/-- The next accepted record within `fuel` fetches. -/
def nextWithin : Nat → ReadingM σ ε (Option (Nat × Record ε))
  | 0 => return none
  | fuel + 1 => do
    match ← fetch with
    | none => return none
    | some record =>
      let c := (← get).cursor
      if ← onDesk (Desk.passes record c.request.filters) then
        modify fun r => { r with cursor := { r.cursor with position := r.cursor.position + 1 } }
        return some (c.position, record)
      else nextWithin fuel

/-- The next accepted record and its number. -/
def next : ReadingM σ ε (Option (Nat × Record ε)) := do
  start
  nextWithin ((← get).cursor.pending + 1)

end Cursor

namespace Select

variable {ε : Type}

/-- A cursor over the query; it has run nothing yet. -/
def cursor (s : Select ε) : Cursor ε :=
  { request := s }

end Select

end SqlGateway
