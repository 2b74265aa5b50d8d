import SqlGateway.Instances
import SqlGateway.Request.Cursor

/-!
# Workspaces

Several requests may share an adapter or a repository.  A workspace holds what
is shared: the instances, their adapters, the repositories by their places, and
the tags of the filters asked.  A request in it refers to its adapter by number and
to its repository by place.

    onDesk a r act = act on the session of adapter a and on repository r, both put back
-/

namespace SqlGateway

structure Workspace (σ ε : Type) where
  instances : Instances σ (AdapterStore σ) Nat
  store : AdapterStore σ
  repositories : List (Repository ε) := []
  asked : List String := []

/-- Something that acts on an adapter and on a repository. -/
structure Placed (α : Type) where
  adapter : Nat
  repository : Nat
  item : α

/-- Nothing is done when there is no such adapter or repository. -/
abbrev WorkspaceM (σ ε : Type) : Type → Type :=
  OptionT (StateM (Workspace σ ε))

namespace Workspace

variable {σ ε α : Type}

def current : WorkspaceM σ ε (Workspace σ ε) :=
  liftM (get : StateM (Workspace σ ε) (Workspace σ ε))

def update (f : Workspace σ ε → Workspace σ ε) : WorkspaceM σ ε Unit :=
  liftM (modify f : StateM (Workspace σ ε) Unit)

def ofOption (a : Option α) : WorkspaceM σ ε α :=
  OptionT.mk (pure a)

def adapter (number : Nat) : WorkspaceM σ ε (Adapter σ) := do
  ofOption ((← current).store.adapters[number]?)

def repository (place : Nat) : WorkspaceM σ ε (Repository ε) := do
  ofOption ((← current).repositories[place]?)

/-- The place of a new repository. -/
def addRepository (r : Repository ε) : WorkspaceM σ ε Nat := do
  let w ← current
  update fun w => { w with repositories := w.repositories ++ [r] }
  return w.repositories.length

def setRepository (place : Nat) (r : Repository ε) : WorkspaceM σ ε Unit :=
  update fun w => { w with repositories := w.repositories.set place r }

def onInstances (act : InstancesM σ Unit (AdapterStore σ) Nat α) :
    WorkspaceM σ ε (Except SqlError α) := do
  let w ← current
  let (result, instances, _, store) := act.run (w.instances, (), w.store)
  update fun w => { w with instances, store }
  return result.mapError .configuration

def onSession (number : Nat) (act : SessionM σ α) : WorkspaceM σ ε (Except SqlError α) := do
  let a ← adapter number
  let w ← current
  let (result, channel) := act.run ⟨a.session, w.store.world⟩
  update fun w => { w with store := w.store.putBack number channel }
  return result

/-- What a select of the workspace acts on. -/
def takeDesk (number place : Nat) : WorkspaceM σ ε (Desk σ ε) := do
  let a ← adapter number
  let r ← repository place
  let w ← current
  return { channel := ⟨a.session, w.store.world⟩, repository := r }

def putDesk (number place : Nat) (d : Desk σ ε) : WorkspaceM σ ε Unit := do
  setRepository place d.repository
  update fun w => { w with
    store := w.store.putBack number d.channel, asked := w.asked ++ d.asked }

def onDesk (number place : Nat) (act : DeskM σ ε α) : WorkspaceM σ ε (Except SqlError α) := do
  let (result, desk) := act.run (← takeDesk number place)
  putDesk number place desk
  return result

def onCursor (c : Placed (Cursor ε)) (act : ReadingM σ ε α) :
    WorkspaceM σ ε (Except SqlError α × Placed (Cursor ε)) := do
  let (result, reading) := act.run ⟨c.item, ← takeDesk c.adapter c.repository⟩
  putDesk c.adapter c.repository reading.desk
  return (result, { c with item := reading.cursor })

end Workspace

end SqlGateway
