import SqlGateway.Exchange.Value
import SqlGateway.Query.Options

/-!
# Query options as JSON

Every option is a member; an option that is not set is null, or left out.

    QueryOptions.ofJson? o.toJson = some o    for an o without NaN and without JSON inside
-/

namespace SqlGateway

namespace Fields

def toJson : Fields → Json
  | .raw sql => .object [("raw", .string sql)]
  | .list items => .object [("list", .array (items.map .string))]
  | .assignments pairs => .object [("assign", Pairs.tagged pairs)]
  | .rows items => .object [("rows", .array (items.map Pairs.tagged))]

def ofJson? : Json → Option Fields
  | .object [("raw", j)] => j.asString?.map .raw
  | .object [("list", j)] => (j.listOf? Json.asString?).map .list
  | .object [("assign", j)] => (Pairs.ofTagged? j).map .assignments
  | .object [("rows", j)] => (j.listOf? Pairs.ofTagged?).map .rows
  | _ => none

end Fields

namespace JoinSpec

def toJson (s : JoinSpec) : Json :=
  .ofMembers [("table", .string s.table), ("alias", .string s.tableAlias),
    ("condition", .string s.condition), ("mandatory", .bool s.mandatory)]

def ofJson? (j : Json) : Option JoinSpec := do
  return { table := ← j.text? "table", tableAlias := ← j.text? "alias",
           condition := ← j.text? "condition",
           mandatory := ← (← j.member? "mandatory").asBool? }

end JoinSpec

namespace Join

def toJson : Join → Json
  | .raw sql => .object [("raw", .string sql)]
  | .spec s => s.toJson

def ofJson? : Json → Option Join
  | .object [("raw", j)] => j.asString?.map .raw
  | j => (JoinSpec.ofJson? j).map .spec

end Join

namespace OutputMode

def name : OutputMode → String
  | .object => "object"
  | .firstRow => "array_first"
  | .rows => "array_assoc"
  | .objects => "array_objects"
  | .statement => "statement"
  | .sqlText => "sql"

def all : List OutputMode :=
  [.object, .firstRow, .rows, .objects, .statement, .sqlText]

def ofName? (s : String) : Option OutputMode :=
  all.find? fun m => m.name == s

def ofJson? (j : Json) : Option OutputMode :=
  j.asString?.bind ofName?

def toJson (m : OutputMode) : Json :=
  .string m.name

end OutputMode

namespace QueryKind

def ofName? : String → Option QueryKind
  | "select" => some .select
  | "update" => some .update
  | "insert" => some .insert
  | "delete" => some .delete
  | _ => none

end QueryKind

namespace QueryOptions

def toJson (o : QueryOptions) : Json :=
  let text := Json.orNull Json.string
  let int := Json.orNull Json.int
  let flag := Json.orNull Json.bool
  .ofMembers [("table", text o.table), ("what", Json.orNull Fields.toJson o.what),
    ("conditions", .array (o.conditions.map .string)), ("joins", .array (o.joins.map Join.toJson)),
    ("order_by", text o.orderBy), ("group_by", text o.groupBy),
    ("having", .array (o.having.map .string)), ("number", int o.number), ("offset", int o.offset),
    ("distinct", flag o.distinct), ("alias", text o.tableAlias),
    ("output", Json.orNull OutputMode.toJson o.output), ("id_field", text o.idField),
    ("low_priority", flag o.lowPriority), ("ignore", flag o.ignore), ("quick", flag o.quick),
    ("delayed", flag o.delayed), ("into", flag o.into), ("only", flag o.only)]

def ofJson? (j : Json) : Option QueryOptions := do
  let text := j.optional? Json.asString?
  let texts (name : String) := j.withDefault? (Json.listOf? Json.asString?) name []
  let int := j.optional? Json.asInt?
  let flag := j.optional? Json.asBool?
  return {
    table := ← text "table"
    what := ← j.optional? Fields.ofJson? "what"
    conditions := ← texts "conditions"
    joins := ← j.withDefault? (Json.listOf? Join.ofJson?) "joins" []
    orderBy := ← text "order_by"
    groupBy := ← text "group_by"
    having := ← texts "having"
    number := ← int "number"
    offset := ← int "offset"
    distinct := ← flag "distinct"
    tableAlias := ← text "alias"
    output := ← j.optional? OutputMode.ofJson? "output"
    idField := ← text "id_field"
    lowPriority := ← flag "low_priority"
    ignore := ← flag "ignore"
    quick := ← flag "quick"
    delayed := ← flag "delayed"
    into := ← flag "into"
    only := ← flag "only" }

end QueryOptions

end SqlGateway
