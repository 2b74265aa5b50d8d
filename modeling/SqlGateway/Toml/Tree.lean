import SqlGateway.Toml.Basic

/-!
# Tables under construction

While a document is read, a table remembers how it came about: by a header of
its own, only as part of a longer name, or by a dotted key.  A header may open
a table once; dotted keys may add only to tables that dotted keys made.

    finished t = the values, with lists of tables as arrays
-/

namespace SqlGateway.Toml

inductive Node where
  | leaf (v : Toml)
  /-- `implied` by a longer name, and perhaps by a dotted key. -/
  | table (implied dotted : Bool) (entries : List (String × Node))
  /-- Tables with one header each. -/
  | tables (items : List (List (String × Node)))

/-- A table with what is known of its origin. -/
structure Table where
  implied : Bool := false
  dotted : Bool := false
  entries : Keyed Node := []

namespace Table

/-- Changes the last element of a list. -/
def mapLast? {α : Type} (f : α → Option α) : List α → Option (List α)
  | [] => none
  | [a] => (f a).map fun a => [a]
  | a :: rest => (mapLast? f rest).map (a :: ·)

/-- Changes the table at the end of `path`, making tables on the way.  Of a list of tables the last
is meant.  By dotted keys no table is entered that has a header or a value of its own. -/
def change? (dotted : Bool) (f : Table → Option Table) : List String → Table → Option Table
  | [], t => f t
  | key :: path, t => do
    let put (n : Node) : Table := { t with entries := Keyed.insert key n t.entries }
    match Keyed.find? key t.entries with
    | none =>
      let child ← change? dotted f path { implied := true, dotted }
      return put (.table child.implied child.dotted child.entries)
    | some (.leaf _) => none
    | some (.table implied wasDotted entries) =>
      guard (!dotted || implied)
      let child ← change? dotted f path { implied, dotted := wasDotted, entries }
      return put (.table child.implied child.dotted child.entries)
    | some (.tables items) =>
      let items ← mapLast?
        (fun es => (change? dotted f path { entries := es }).map (·.entries)) items
      return put (.tables items)

/-- A value under a dotted key. -/
def assign? (path : List String) (key : String) (value : Toml) : Table → Option Table :=
  change? true (fun t =>
    if t.dotted == path.isEmpty || Keyed.contains key t.entries then none
    else some { t with entries := Keyed.insert key (.leaf value) t.entries }) path

/-- Opens the table of a header.  It may be there as part of longer names only. -/
def openTable? (path : List String) (key : String) : Table → Option Table :=
  change? false (fun t =>
    match Keyed.find? key t.entries with
    | none => some { t with entries := Keyed.insert key (.table false false []) t.entries }
    | some (.table true false entries) =>
      some { t with entries := Keyed.insert key (.table false false entries) t.entries }
    | some _ => none) path

/-- Opens one more table of a list. -/
def openItem? (path : List String) (key : String) : Table → Option Table :=
  change? false (fun t =>
    match Keyed.find? key t.entries with
    | none => some { t with entries := Keyed.insert key (.tables [[]]) t.entries }
    | some (.tables items) =>
      some { t with entries := Keyed.insert key (.tables (items ++ [[]])) t.entries }
    | some _ => none) path

end Table

mutual

def Node.finished : Node → Toml
  | .leaf v => v
  | .table _ _ entries => .table (finishedEntries entries)
  | .tables items => .array (finishedItems items)

def finishedEntries : List (String × Node) → Keyed Toml
  | [] => []
  | (key, n) :: rest => (key, n.finished) :: finishedEntries rest

def finishedItems : List (List (String × Node)) → List Toml
  | [] => []
  | es :: rest => .table (finishedEntries es) :: finishedItems rest

end

end SqlGateway.Toml
