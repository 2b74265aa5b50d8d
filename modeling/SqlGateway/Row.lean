import SqlGateway.Value.Json

/-!
# Result rows

A row is a list of cells, each with the name of its column.  Names may repeat,
as a join of two tables makes them.

    get? r c = the first cell named c exactly, else the first named c up to letter case
-/

namespace SqlGateway

structure Row where
  cells : List (String × Value)

namespace Row

instance : BEq Row := ⟨fun a b =>
  a.cells.map (·.1) == b.cells.map (·.1) && Value.beqItems (a.cells.map (·.2)) (b.cells.map (·.2))⟩

def columns (r : Row) : List String :=
  r.cells.map (·.1)

def values (r : Row) : List Value :=
  r.cells.map (·.2)

def size (r : Row) : Nat :=
  r.cells.length

def isEmpty (r : Row) : Bool :=
  r.cells.isEmpty

def get? (r : Row) (column : String) : Option Value :=
  match r.cells.find? fun cell => cell.1 == column with
  | some cell => some cell.2
  | none => (r.cells.find? fun cell => Text.sameFolded cell.1 column).map (·.2)

def index? (r : Row) (i : Nat) : Option Value :=
  (r.cells[i]?).map (·.2)

/-- The cells as members of an object; the last of a name counts. -/
def toJson (r : Row) : Json :=
  .ofMembers (r.cells.map fun cell => (cell.1, cell.2.toJson))

def inspect (r : Row) : String :=
  "Row \x7b columns: " ++ inspectList (r.columns.map Text.inspect)
    ++ ", values: " ++ inspectList (Value.inspectItems r.values) ++ " \x7d"

end Row

end SqlGateway
