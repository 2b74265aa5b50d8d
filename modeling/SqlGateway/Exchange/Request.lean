import SqlGateway.Exchange.Condition
import SqlGateway.Exchange.Query
import SqlGateway.Request.Command
import SqlGateway.Request.Cursor

/-!
# Builder calls as JSON

A call is a list of a name and an argument.  Calls are made in order up to the
first whose condition cannot be built; those before it count.

    calls? call r [c₁, c₂] = call (call r c₁) c₂
-/

namespace SqlGateway

def Condition.listJson (cs : List Condition) : Json :=
  .array (cs.map Condition.toJson)

/-- What a call makes of a request, for arguments of its shape. -/
abbrev Call (α : Type) : Type :=
  α → String → Json → Option (Except BuildError α)

/-- The last request reached, and the failure that stopped there. -/
def Call.all? {α : Type} (call : Call α) : α → List Json → Option (α × Option BuildError)
  | a, [] => some (a, none)
  | a, .array [.string name, arg] :: rest => do
    match ← call a name arg with
    | .ok a => Call.all? call a rest
    | .error e => return (a, some e)
  | _, _ => none

/-- The calls that both kinds of request have. -/
def Request.call? (r : Request) (name : String) (j : Json) : Option (Except BuildError Request) :=
  match name with
  | "where" => (Condition.ofWays? j).map fun c => c.map r.andWhere
  | "fields" => (Fields.ofJson? j).map fun f => .ok (r.fields f)
  | "from" => j.asString?.map fun t => .ok (r.fromTable t)
  | "order_by" => j.asString?.map fun o => .ok (r.orderBy o)
  | "number" => j.asInt?.map fun n => .ok (r.number n)
  | "offset" => j.asInt?.map fun n => .ok (r.offset n)
  | "output" => (OutputMode.ofJson? j).map fun m => .ok (r.output m)
  | _ => none

def CommandKind.ofName? : String → Option CommandKind
  | "insert" => some .insert
  | "update" => some .update
  | "delete" => some .delete
  | _ => none

namespace Command

def toJson (c : Command) : Json :=
  .ofMembers [("options", c.options.toJson), ("table", Json.orNull .string c.options.table),
    ("id_field", .string c.idField), ("output", Json.orNull OutputMode.toJson c.options.output),
    ("conditions", Condition.listJson c.conditions)]

def call? : Call Command := fun c name j =>
  let flag (f : QueryOptions → Bool → QueryOptions) : Option (Except BuildError Command) :=
    j.asBool?.map fun b => .ok (c.mapOptions fun o => f o b)
  match name with
  | "id_field" => j.asString?.map fun f => .ok (c.withIdField f)
  | "values" => (Pairs.ofTagged? j).map fun ps => .ok (c.mapRequest (·.fields (.assignments ps)))
  | "add_row" => (Pairs.ofTagged? j).map fun ps => .ok (c.addRow ps)
  | "set" => (Pairs.pair? j).map fun p => .ok (c.set p.1 p.2)
  | "ignore" => flag fun o b => { o with ignore := some b }
  | "low_priority" => flag fun o b => { o with lowPriority := some b }
  | "delayed" => flag fun o b => { o with delayed := some b }
  | "into_keyword" => flag fun o b => { o with into := some b }
  | "only" => flag fun o b => { o with only := some b }
  | "quick" => flag fun o b => { o with quick := some b }
  | name => (c.toRequest.call? name j).map fun r => r.map fun r => c.mapRequest fun _ => r

end Command

namespace Filter

/-- A test of an integer column, or of the record itself; `value` reads the column of an entity.  A
record without that integer is refused. -/
def ofJson? {ε : Type} (value : ε → String → Option Int) (j : Json) : Option (Filter ε) := do
  let column ← j.withDefault? Json.asString? "col" "id"
  let n ← j.withDefault? Json.asInt? "n" 0
  let tag ← j.text? "tag"
  let on (p : Int → Bool) : Filter ε := ⟨tag, fun
    | .object o => (value o.value column).any p
    | .row row => ((row.get? column).bind Value.asInt?).any p⟩
  match ← j.text? "test" with
  | "always" => return ⟨tag, fun _ => true⟩
  | "never" => return ⟨tag, fun _ => false⟩
  | "is_object" => return ⟨tag, fun | .object _ => true | .row _ => false⟩
  | "even" => return on fun i => i % 2 == 0
  | "ge" => return on fun i => decide (n ≤ i)
  | "lt" => return on fun i => decide (i < n)
  | _ => none

end Filter

namespace Select

variable {ε : Type}

/-- A select with the table of its repository. -/
def toJson (s : Select ε) (repositoryTable : String) : Json :=
  let o := s.options
  let text := Json.orNull Json.string
  .ofMembers [("options", o.toJson), ("fields", Json.orNull Fields.toJson o.what),
    ("table", text o.table), ("alias", text o.tableAlias), ("entity_name", .string s.entityName),
    ("order_by", text o.orderBy), ("number", Json.orNull .int o.number),
    ("offset", Json.orNull .int o.offset), ("output", Json.orNull OutputMode.toJson o.output),
    ("using_cache", .bool s.usingCache), ("having", Condition.listJson s.having),
    ("conditions", Condition.listJson s.conditions), ("id_field", .string s.idField),
    ("repository", .string repositoryTable), ("driver", .string s.dialect.key)]

def joinSmart? (s : Select ε) (j : Json) : Option (Select ε) := do
  return s.joinSmart (← j.text? "table") (← j.optional? Json.asString? "alias")
    (← j.optional? Json.asString? "my_field") (← j.text? "their_field")
    (← j.withDefault? Json.asBool? "mandatory" false)

def call? (value : ε → String → Option Int) : Call (Select ε) := fun s name j =>
  let done (s : Option (Select ε)) : Option (Except BuildError (Select ε)) := s.map .ok
  let mode (m : OutputMode) := done (some (s.mapRequest (·.output m)))
  match name with
  | "having" => (Condition.ofWays? j).map fun c => c.map s.havingAlso
  | "field_list" =>
    done ((j.listOf? Json.asString?).map fun f => s.mapRequest (·.fields (.list f)))
  | "add_field" => done (j.asString?.map s.addField)
  | "alias" => done (j.asString?.map s.aliased)
  | "group_by" => done (j.asString?.map s.groupBy)
  | "join_raw" => done (j.asString?.map fun sql => s.join (.raw sql))
  | "join" => done ((Join.ofJson? j).map s.join)
  | "join_spec" => done ((JoinSpec.ofJson? j).map fun spec => s.join (.spec spec))
  | "join_smart" => done (s.joinSmart? j)
  | "distinct" => done (j.asBool?.map s.distinct)
  | "set_using_cache" => done (j.asBool?.map s.useCache)
  | "disable_cache" => done (some (s.useCache false))
  | "max_rows" => done (j.asInt?.map fun n => s.mapRequest (·.number n))
  | "as_object" => mode .object
  | "as_object_list" => mode .objects
  | "as_array" => mode .firstRow
  | "as_array_list" => mode .rows
  | "filter" => done ((Filter.ofJson? value j).map s.filter)
  | name => (s.toRequest.call? name j).map fun r => r.map fun r => s.mapRequest fun _ => r

end Select

end SqlGateway
