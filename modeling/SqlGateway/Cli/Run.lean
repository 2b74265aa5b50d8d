import SqlGateway.Cli.Help
import SqlGateway.Condition.Json
import SqlGateway.Config.File
import SqlGateway.Instances
import SqlGateway.Request.Select

/-!
# Running an invocation

A run reads the configuration of its instance, makes its adapter and does what
the command says; what it prints is the result or, on failure, one error with
its cause.  `m` is what may be done where it runs, such as reading files, and
`σ` is the world of native drivers.

    run (select … without run) prints the text of the query, and nothing connects
-/

namespace SqlGateway.Cli

/-- What stopped a run: the cause, and what was being done when that says more. -/
structure Failure where
  context : Option String := none
  cause : SqlError

/-- The cause of a failure with a context stands below it, indented. -/
def Failure.text (f : Failure) : String :=
  match f.context with
  | none => "Error: " ++ f.cause.message ++ "\n"
  | some context =>
    "Error: " ++ context ++ "\n\nCaused by:\n    " ++ Text.indentFollowing 4 f.cause.message ++ "\n"

/-- What a run leaves behind. -/
structure Outcome where
  code : Nat
  stdout : String := ""
  stderr : String := ""
  deriving DecidableEq

namespace Outcome

def ofResult : Except Failure String → Outcome
  | .ok text => { code := 0, stdout := text }
  | .error f => { code := 1, stderr := f.text }

def usageText : String :=
  "error: the arguments cannot be used\n\nFor more information, try '--help'.\n"

/-- The outcome of arguments that ask for no command. -/
def ofParsed : Parsed → Outcome
  | .help topic => { code := 0, stdout := topic.text }
  | .version => { code := 0, stdout := versionText }
  | .usage | .invocation _ => { code := 2, stderr := usageText }

end Outcome

/-- What a run needs of the place where it runs. -/
structure Surroundings (m : Type → Type) (σ : Type) where
  /-- A run has one adapter, so adapters are taken by value. -/
  registry : Registry σ σ (Adapter σ)
  read : String → m (Except FileError String)
  /-- Where the configurations are when nothing is said. -/
  defaultConfig : String
  /-- The password that is used when one is asked for. -/
  password : InstanceConfig → m String

/-- All dialects, under all their keys. -/
def drivers {σ : Type} (connector : Dialect → Connector σ) : Registry σ σ (Adapter σ) :=
  .standard (fun dialect session => return { dialect, session }) connector

/-- The directory of configurations is the named one, if its path is absolute, or is in the home
directory, if there is one. -/
def defaultConfigPath (configHome home : Option String) : String :=
  let directory := match configHome.filter (Text.startsWith "/"), home with
    | some d, _ => d
    | none, some home => home ++ "/.config"
    | none, none => "."
  directory ++ "/sqladapter/database.toml"

/-- The configuration of an instance, by what reading the file at `path` gave. -/
def configure (path instanceName : String) (content : Except FileError String) :
    Except Failure InstanceConfig :=
  let source : ConfigSource Unit := .file (fun _ => return content) path
  ((source.get instanceName).run ()).1.mapError fun e =>
    ⟨some ("reading " ++ path), .configuration e⟩

/-- An array is a condition in its list form; anything else is query text. -/
def condition (text : String) : Except BuildError Condition :=
  match Json.parse? Json.depthLimit text with
  | some (.array items) => Condition.ofJson (.array items)
  | _ => .ok (.raw text)

namespace SelectArguments

def request {σ : Type} (a : SelectArguments) (adapter : Adapter σ) :
    Except BuildError (Select Row) := do
  let s := Select.ofRepository adapter.dialect (Select.rowRepository adapter a.table)
  let conditions ← a.conditions.mapM condition
  let r := conditions.foldl Request.andWhere s.toRequest
  let r := a.orderBy.elim r r.orderBy
  let r := a.number.elim r r.number
  return s.mapRequest fun _ => a.offset.elim r r.offset

end SelectArguments

/-- Rows as an array of objects. -/
def rowsText (rows : List Row) : String :=
  (Json.array (rows.map Row.toJson)).pretty ++ "\n"

/-- What a command prints. -/
def Command.perform {σ : Type} (adapter : Adapter σ) : Command → SessionM σ String
  | .query sql true => do
    let n ← Session.runAs sql .affected Fetched.toAffected
    return Decimal.ofNat n ++ "\n"
  | .query sql false => do
    return rowsText (← Session.runAs sql .rows Fetched.toRows)
  | .select a => do
    let s ← built (a.request adapter)
    if a.run then return rowsText (← s.rows) else return (← s.sql) ++ "\n"

/-- Makes the adapter and runs the command on it. -/
def Invocation.execute {σ : Type} (i : Invocation) (registry : Registry σ σ (Adapter σ))
    (config : InstanceConfig) : StateM σ (Except Failure String) := fun world =>
  let source : ConfigSource Unit := .memory [(i.instanceName, config)]
  let (result, _, _, world) :=
    (Instances.get source (some i.instanceName)).run ({ registry }, (), world)
  match result with
  | .error e =>
    let context := "cannot use instance " ++ Text.inspect i.instanceName
    (.error ⟨some context, .configuration e⟩, world)
  | .ok adapter =>
    let (result, channel) := (i.command.perform adapter).run ⟨adapter.session, world⟩
    (result.mapError fun cause => { cause }, channel.world)

/-- The whole run of a program with these arguments. -/
def run {m : Type → Type} [Monad m] {σ : Type} (s : Surroundings m σ) (args : List String) :
    StateT σ m Outcome := do
  match Parsed.ofArguments args with
  | .invocation i =>
    let path := i.config.getD s.defaultConfig
    match configure path i.instanceName (← s.read path) with
    | .error f => return .ofResult (.error f)
    | .ok config =>
      let passwd ← if i.promptsPassword then s.password config else pure config.passwd
      return .ofResult (← modifyGet (i.execute s.registry { config with passwd }))
  | parsed => return .ofParsed parsed

end SqlGateway.Cli
