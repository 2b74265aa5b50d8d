import SqlGateway.Entity.Repository
import SqlGateway.Request.Basic

/-!
# Selects

A select reads one table.  Its rows come back as rows, or as objects of its
repository that pass its filters; the filters are asked in order until one
refuses.  A `Desk` holds what a running select acts on: its session and the
world, its repository, and the filters asked so far.

    sql s      = the text that rows s sends
    count s    = the number of rows in the database, before any filter
-/

namespace SqlGateway

/-- What a select yields: an object, or a row as it came. -/
inductive Record (ε : Type) where
  | object (o : Object ε)
  | row (r : Row)

/-- A test of records, with a tag to know it by. -/
structure Filter (ε : Type) where
  tag : String
  test : Record ε → Bool

structure Desk (σ ε : Type) where
  channel : Channel σ
  repository : Repository ε
  /-- Tags of the filters asked, in order. -/
  asked : List String := []

abbrev DeskM (σ ε : Type) : Type → Type :=
  ExceptT SqlError (StateM (Desk σ ε))

namespace Desk

variable {σ ε α : Type}

def onSession (act : SessionM σ α) : DeskM σ ε α := do
  let d ← get
  let (result, channel) := act.run d.channel
  set { d with channel }
  MonadExcept.ofExcept result

def load (row : Row) (useCache : Bool) : DeskM σ ε (Object ε) := do
  let d ← get
  let (result, repository) := d.repository.load row useCache
  set { d with repository }
  MonadExcept.ofExcept result

/-- Whether all filters accept the record; those after a refusal are not asked. -/
def passes (record : Record ε) : List (Filter ε) → DeskM σ ε Bool
  | [] => return true
  | f :: rest => do
    modify fun d => { d with asked := d.asked ++ [f.tag] }
    if f.test record then passes record rest else return false

end Desk

structure Select (ε : Type) extends Request where
  having : List Condition := []
  usingCache : Bool := true
  filters : List (Filter ε) := []

/-- What `Select.run` produced. -/
inductive Selection (ε : Type) where
  | sqlText (sql : String)
  | rows (items : List Row)
  | row (item : Option Row)
  | object (item : Option (Object ε))
  | objects (items : List (Object ε))
  | statement (s : Statement)

def Selection.inspect {ε : Type} : Selection ε → String
  | .sqlText sql => "Sql(" ++ Text.inspect sql ++ ")"
  | .rows items => "Rows(" ++ Decimal.ofNat items.length ++ ")"
  | .row item => "Row(" ++ boolText item.isSome ++ ")"
  | .object item => "Object(" ++ boolText item.isSome ++ ")"
  | .objects items => "Objects(" ++ Decimal.ofNat items.length ++ ")"
  | .statement s => "Statement(" ++ Decimal.ofNat s.remaining ++ ")"

namespace Select

variable {σ ε : Type}

/-- A select over the table of a repository. -/
def ofRepository (dialect : Dialect) (r : Repository ε) : Select ε where
  dialect
  idField := r.idField
  options := { table := some r.table }

/-- The repository of raw rows of a table, identified by the session's id field. -/
def rowRepository (adapter : Adapter σ) (table : String) : Repository Row :=
  { ofRow := .ok, table, idField := adapter.session.idField }

def mapRequest (s : Select ε) (f : Request → Request) : Select ε :=
  { s with toRequest := f s.toRequest }

def mapOptions (s : Select ε) (f : QueryOptions → QueryOptions) : Select ε :=
  s.mapRequest fun r => r.mapOptions f

/-- The options and conditions; filters start over. -/
def withoutFilters (s : Select ε) : Select ε :=
  { s with filters := [] }

/-- One more selected field; with no list yet it comes after `*`. -/
def addField (s : Select ε) (field : String) : Select ε :=
  s.mapOptions fun o => { o with
    what := match o.what with
      | some (.raw sql) => some (.raw (sql ++ "," ++ field))
      | some (.list items) => some (.list (items ++ [field]))
      | _ => some (.list ["*", field]) }

def aliased (s : Select ε) (name : String) : Select ε :=
  s.mapOptions fun o => { o with tableAlias := some name }

/-- The alias in use: the one set, or `name` from now on. -/
def aliasOr (s : Select ε) (name : String) : String × Select ε :=
  match s.options.tableAlias with
  | some a => (a, s)
  | none => (name, s.aliased name)

/-- The alias if one is set, else the table. -/
def entityName (s : Select ε) : String :=
  s.options.tableAlias.getD (s.options.table.getD "")

def havingAlso (s : Select ε) (c : Condition) : Select ε :=
  { s with having := s.having ++ [c] }

def groupBy (s : Select ε) (columns : String) : Select ε :=
  s.mapOptions fun o => { o with groupBy := some columns }

def distinct (s : Select ε) (flag : Bool) : Select ε :=
  s.mapOptions fun o => { o with distinct := some flag }

def join (s : Select ε) (j : Join) : Select ε :=
  s.mapOptions fun o => { o with joins := o.joins ++ [j] }

/-- The alias of a join that has none: `j` and its place among the joins. -/
def joinAlias (s : Select ε) : String :=
  "j" ++ Decimal.ofNat (s.options.joins.length + 1)

/-- Joins `table` where `alias.theirField = entity.myField`; by default `myField` is the id field. -/
def joinSmart (s : Select ε) (table : String) (tableAlias myField : Option String)
    (theirField : String) (mandatory : Bool) : Select ε :=
  let tableAlias := tableAlias.getD s.joinAlias
  let mine := s.entityName ++ "." ++ myField.getD s.idField
  let condition := s.dialect.quoteIdentifier (tableAlias ++ "." ++ theirField) ++ " = "
    ++ s.dialect.quoteIdentifier mine
  s.join (.spec { table, tableAlias, condition, mandatory })

def filter (s : Select ε) (f : Filter ε) : Select ε :=
  { s with filters := s.filters ++ [f] }

def useCache (s : Select ε) (flag : Bool) : Select ε :=
  { s with usingCache := flag }

/-- The options for the adapter, with both lists of conditions as text. -/
def resolved (s : Select ε) : Except BuildError QueryOptions := do
  let o ← s.toRequest.resolved
  let having ← Condition.texts s.dialect s.having
  return { o with having }

/-- Resolves the options, changes them by `f` and runs them. -/
def performWith (s : Select ε) (f : QueryOptions → QueryOptions) : SessionM σ Output := do
  let o ← built s.resolved
  s.dialect.select (f o)

/-- The query text; nothing is run. -/
def sql (s : Select ε) : SessionM σ String := do
  let output ← s.performWith fun o => { o with output := some .sqlText }
  MonadExcept.ofExcept output.toSqlText

/-- All rows as they come. -/
def rows (s : Select ε) : SessionM σ (List Row) := do
  let output ← s.performWith fun o => { o with output := some .rows }
  MonadExcept.ofExcept output.toRows

/-- The first row as it comes. -/
def row (s : Select ε) : SessionM σ (Option Row) := do
  let output ← s.performWith fun o => { o with output := some .firstRow }
  MonadExcept.ofExcept output.toRow

/-- The object of one row, if the filters accept it. -/
def hydrate (s : Select ε) (row : Row) : DeskM σ ε (Option (Object ε)) := do
  let object ← Desk.load row s.usingCache
  if ← Desk.passes (.object object) s.filters then return some object else return none

/-- The objects of the rows that the filters accept; the first failure ends it. -/
def hydrateAll (s : Select ε) : List Row → DeskM σ ε (List (Object ε))
  | [] => return []
  | row :: rest => do
    let object ← s.hydrate row
    return object.toList ++ (← s.hydrateAll rest)

/-- The first object, if there is a row and the filters accept it. -/
def object (s : Select ε) : DeskM σ ε (Option (Object ε)) := do
  let output ← Desk.onSession
    (s.performWith fun o => { o with number := some 1, output := some .rows })
  match ← MonadExcept.ofExcept output.toRows with
  | [] => return none
  | row :: _ => s.hydrate row

def objects (s : Select ε) : DeskM σ ε (List (Object ε)) := do
  s.hydrateAll (← Desk.onSession s.rows)

/-- The result in the output mode of the request. -/
def run (s : Select ε) : DeskM σ ε (Selection ε) := do
  match s.options.output with
  | some .object => return .object (← s.object)
  | some .objects => return .objects (← s.objects)
  | _ =>
    match ← Desk.onSession (s.performWith id) with
    | .sqlText sql => return .sqlText sql
    | .rows items => return .rows items
    | .row item => return .row item
    | .statement st => return .statement st
    | output => throw (.queryBuild (.unexpectedOutput .rows output.product))

/-- The column that holds the count. -/
def countColumn : String := "row_count"

/-- The options of the counted query: at most `most` rows, and no order unless it has pages. -/
def counted (most : Option Int) (o : QueryOptions) : QueryOptions :=
  let o := { o with output := some .sqlText, number := most <|> o.number }
  if o.page?.isNone then { o with orderBy := none } else o

/-- The query that counts the rows of another. -/
def countOptions (inner : String) : QueryOptions :=
  { table := some ("(" ++ inner ++ ") oq"), what := some (.raw ("COUNT(*) " ++ countColumn)),
    output := some .rows }

/-- The number in the count column, else in the first; none or a negative one counts as 0. -/
def countOfRow (row : Option Row) : Nat :=
  ((row.bind fun r => (r.get? countColumn <|> r.index? 0).bind Value.asInt?).getD 0).toNat

/-- How many rows the query has, and at most `most`; no filter is asked. -/
def count (s : Select ε) (most : Option Int) : SessionM σ Nat := do
  let output ← s.performWith (counted most)
  let inner ← MonadExcept.ofExcept output.toSqlText
  let output ← s.dialect.select (countOptions inner)
  let rows ← MonadExcept.ofExcept output.toRows
  return countOfRow rows.head?

def exists? (s : Select ε) : SessionM σ Bool := do
  return decide (0 < (← s.count (some 1)))

end Select

end SqlGateway
