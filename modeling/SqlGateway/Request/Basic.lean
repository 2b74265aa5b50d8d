import SqlGateway.Adapter
import SqlGateway.Condition.Basic

/-!
# Requests

A request collects options and conditions and touches no database.  Its
conditions are formatted when it is resolved, for the dialect it was made for.

    (resolved r).conditions = the texts of r's conditions, in order
-/

namespace SqlGateway

structure Request where
  dialect : Dialect
  idField : String
  options : QueryOptions := {}
  conditions : List Condition := []

namespace Request

/-- A request on a table, for the adapter of a session. -/
def ofTable {σ : Type} (adapter : Adapter σ) (table : String) : Request where
  dialect := adapter.dialect
  idField := adapter.session.idField
  options := { table := some table }

def mapOptions (r : Request) (f : QueryOptions → QueryOptions) : Request :=
  { r with options := f r.options }

def fromTable (r : Request) (table : String) : Request :=
  r.mapOptions fun o => { o with table := some table }

def fields (r : Request) (what : Fields) : Request :=
  r.mapOptions fun o => { o with what := some what }

def andWhere (r : Request) (c : Condition) : Request :=
  { r with conditions := r.conditions ++ [c] }

def orderBy (r : Request) (order : String) : Request :=
  r.mapOptions fun o => { o with orderBy := some order }

def number (r : Request) (n : Int) : Request :=
  r.mapOptions fun o => { o with number := some n }

def offset (r : Request) (n : Int) : Request :=
  r.mapOptions fun o => { o with offset := some n }

def output (r : Request) (mode : OutputMode) : Request :=
  r.mapOptions fun o => { o with output := some mode }

/-- The options for the adapter. -/
def resolved (r : Request) : Except BuildError QueryOptions := do
  let conditions ← Condition.texts r.dialect r.conditions
  return { r.options with conditions, idField := some r.idField }

end Request

end SqlGateway
