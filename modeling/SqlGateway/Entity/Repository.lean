import SqlGateway.Session

/-!
# Repositories

A repository makes the objects of one table and remembers, for each primary
key, the first object made under it, until it is told to forget.  Objects have
numbers: two results are one object when they have one number.

    load r row true = the object under the key of the row, if r has one
-/

namespace SqlGateway

/-- An entity together with its identity. -/
structure Object (ε : Type) where
  number : Nat
  value : ε

structure Repository (ε : Type) where
  /-- Makes an entity of a row. -/
  ofRow : Row → Except SqlError ε
  table : String
  idField : String := defaultIdField
  cache : Keyed (Object ε) := []
  /-- How many objects were made. -/
  made : Nat := 0

namespace Repository

variable {ε : Type}

/-- The key of a row; a row without the id column, or with a null there, has none. -/
def keyOf? (r : Repository ε) (row : Row) : Option String :=
  ((row.get? r.idField).filter fun v => !v.isNull).map Value.display

def find? (r : Repository ε) (key : String) : Option (Object ε) :=
  Keyed.find? key r.cache

/-- The object of a row.  With `useCache`, one already made under the row's key is taken, and a
new one is remembered. -/
def load (r : Repository ε) (row : Row) (useCache : Bool) :
    Except SqlError (Object ε) × Repository ε :=
  let key := if useCache then r.keyOf? row else none
  match key.bind r.find? with
  | some object => (.ok object, r)
  | none =>
    match r.ofRow row with
    | .error e => (.error e, r)
    | .ok value =>
      let object : Object ε := ⟨r.made, value⟩
      let r := { r with made := r.made + 1 }
      match key with
      | some key => (.ok object, { r with cache := Keyed.insert key object r.cache })
      | none => (.ok object, r)

/-- Forgets the object of a key, and hands it over. -/
def invalidate (r : Repository ε) (key : String) : Option (Object ε) × Repository ε :=
  (r.find? key, { r with cache := Keyed.erase key r.cache })

def clear (r : Repository ε) : Repository ε :=
  { r with cache := [] }

def size (r : Repository ε) : Nat :=
  r.cache.length

/-- The same table with other entities; nothing is made yet. -/
def map {δ : Type} (f : ε → δ) (r : Repository ε) : Repository δ :=
  { ofRow := fun row => (r.ofRow row).map f, table := r.table, idField := r.idField }

end Repository

end SqlGateway
