import SqlGateway.Error
import SqlGateway.Text.Blank
import SqlGateway.Value.Basic

/-!
# Query options

Everything one query needs, in one record whose unset fields take defaults.
`layeredOver` lays one record on another: a field that is set wins, and a list
is set when it is not empty.

    (a.layeredOver b).layeredOver c = a.layeredOver (b.layeredOver c)
-/

namespace SqlGateway

/-- Shape of the result of a select. -/
inductive OutputMode where
  /-- One hydrated object; below the request layer it is the first row. -/
  | object
  | firstRow
  | rows
  /-- Every row as a JSON object. -/
  | objects
  /-- The open statement, read by the caller. -/
  | statement
  /-- The query text; nothing is run. -/
  | sqlText
  deriving DecidableEq, Repr

inductive QueryKind where
  | select
  | update
  | insert
  | delete
  deriving DecidableEq, Repr

/-- What a query reads or writes. -/
inductive Fields where
  /-- Taken as it stands. -/
  | raw (sql : String)
  | list (items : List String)
  /-- Values for columns, in an update or for one inserted row. -/
  | assignments (pairs : List (String × Value))
  /-- Rows of one shape to insert. -/
  | rows (items : List (List (String × Value)))
  deriving BEq

def Fields.isEmpty : Fields → Bool
  | .raw sql => Text.isBlankText sql
  | .list items => items.isEmpty
  | .assignments pairs => pairs.isEmpty
  | .rows items => items.isEmpty

structure JoinSpec where
  table : String
  tableAlias : String
  condition : String
  /-- An inner join; else a left join. -/
  mandatory : Bool
  deriving DecidableEq

inductive Join where
  | raw (sql : String)
  | spec (spec : JoinSpec)
  deriving DecidableEq

/-- A positive number of rows after an offset that is not negative. -/
structure Page where
  count : Int
  offset : Int
  deriving DecidableEq

structure QueryOptions where
  table : Option String := none
  what : Option Fields := none
  /-- Texts joined by `AND`. -/
  conditions : List String := []
  joins : List Join := []
  orderBy : Option String := none
  groupBy : Option String := none
  having : List String := []
  /-- Zero and below mean all rows. -/
  number : Option Int := none
  /-- Counts only beside a positive number. -/
  offset : Option Int := none
  distinct : Option Bool := none
  tableAlias : Option String := none
  output : Option OutputMode := none
  idField : Option String := none
  lowPriority : Option Bool := none
  ignore : Option Bool := none
  quick : Option Bool := none
  delayed : Option Bool := none
  into : Option Bool := none
  only : Option Bool := none
  deriving BEq

namespace QueryOptions

/-- What every dialect assumes of a query of this kind. -/
def defaults : QueryKind → QueryOptions
  | .select =>
    { number := some (-1), offset := some 0, output := some .rows, distinct := some false }
  | .update =>
    { number := some (-1), offset := some 0, lowPriority := some false, ignore := some false,
      only := some false }
  | .delete =>
    { number := some (-1), offset := some 0, lowPriority := some false, quick := some false,
      ignore := some false, only := some false }
  | .insert =>
    { number := some (-1), offset := some 0, lowPriority := some false, delayed := some false,
      ignore := some false, into := some true }

def listOver {α : Type} (mine theirs : List α) : List α :=
  if mine.isEmpty then theirs else mine

def layeredOver (mine theirs : QueryOptions) : QueryOptions where
  table := mine.table <|> theirs.table
  what := mine.what <|> theirs.what
  conditions := listOver mine.conditions theirs.conditions
  joins := listOver mine.joins theirs.joins
  orderBy := mine.orderBy <|> theirs.orderBy
  groupBy := mine.groupBy <|> theirs.groupBy
  having := listOver mine.having theirs.having
  number := mine.number <|> theirs.number
  offset := mine.offset <|> theirs.offset
  distinct := mine.distinct <|> theirs.distinct
  tableAlias := mine.tableAlias <|> theirs.tableAlias
  output := mine.output <|> theirs.output
  idField := mine.idField <|> theirs.idField
  lowPriority := mine.lowPriority <|> theirs.lowPriority
  ignore := mine.ignore <|> theirs.ignore
  quick := mine.quick <|> theirs.quick
  delayed := mine.delayed <|> theirs.delayed
  into := mine.into <|> theirs.into
  only := mine.only <|> theirs.only

def page? (o : QueryOptions) : Option Page :=
  match o.number with
  | some n => if 0 < n then some ⟨n, max 0 (o.offset.getD 0)⟩ else none
  | none => none

/-- The trimmed table, which must not be blank. -/
def tableName (o : QueryOptions) : Except BuildError String :=
  match o.table.bind Text.nonBlank? with
  | some table => .ok table
  | none => .error .emptyTable

/-- The fields, which must not be empty. -/
def someFields (o : QueryOptions) : Except BuildError Fields :=
  match o.what with
  | some fields => if fields.isEmpty then .error .noField else .ok fields
  | none => .error .noField

end QueryOptions

end SqlGateway
