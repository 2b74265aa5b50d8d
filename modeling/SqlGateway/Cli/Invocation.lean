import SqlGateway.Cli.Grammar
import SqlGateway.Config.Basic

/-!
# Invocations

The two commands of the program with their options.  Some options may stand
before the command as well as after it; given twice, the later place counts.

    sqladapter [OPTIONS] query [OPTIONS] SQL
    sqladapter [OPTIONS] select [OPTIONS] --table TABLE
-/

namespace SqlGateway.Cli

structure SelectArguments where
  table : String
  /-- Query text, or a condition in its list form. -/
  conditions : List String := []
  orderBy : Option String := none
  number : Option Int := none
  offset : Option Int := none
  /-- Runs the query instead of showing it. -/
  run : Bool := false
  deriving DecidableEq

inductive Command where
  /-- Runs query text; with `exec` it has no rows. -/
  | query (sql : String) (exec : Bool)
  | select (arguments : SelectArguments)
  deriving DecidableEq

structure Invocation where
  /-- Where the configurations are. -/
  config : Option String := none
  instanceName : String := defaultInstance
  promptsPassword : Bool := false
  command : Command
  deriving DecidableEq

/-- What help is about. -/
inductive Topic where
  | program
  | query
  | select
  | help
  deriving DecidableEq, Repr

/-- An invocation, or why there is none. -/
inductive Parsed where
  | invocation (i : Invocation)
  | help (topic : Topic)
  | version
  | usage
  deriving DecidableEq

namespace Topic

/-- The topic of the words after `help`. -/
def ofWords? : List String → Option Topic
  | [] => some .program
  | ["query"] => some .query
  | ["select"] => some .select
  | ["help"] => some .help
  | _ => none

end Topic

namespace Level

/-- The options that every level has. -/
def shared : List (String × OptionKind) :=
  [("config", .path), ("instance", .text), ("password-prompt", .flag)]

def program : Level where
  options := shared
  subcommands := ["query", "select", "help"]
  hasVersion := true

def query : Level where
  options := shared ++ [("exec", .flag)]
  positionals := 1

def select : Level where
  options := shared ++ [("table", .text), ("where", .texts), ("order-by", .text),
    ("number", .number), ("offset", .number), ("run", .flag)]

end Level

namespace Command

def query? (g : Given) : Option Command :=
  g.positionals.head?.map fun sql => .query sql (g.has "exec")

def select? (g : Given) : Option Command :=
  (g.value? "table").map fun table => .select {
    table, conditions := g.values "where", orderBy := g.value? "order-by"
    number := g.number? "number", offset := g.number? "offset", run := g.has "run" }

end Command

namespace Parsed

def ofStop (topic : Topic) : Stop → Parsed
  | .usage => .usage
  | .help => .help topic
  | .version => .version

/-- Reads the arguments after a command. -/
def ofCommand (topic : Topic) (level : Level) (command? : Given → Option Command) (outer : Given)
    (args : List String) : Parsed :=
  match level.read {} args with
  | .error stop => ofStop topic stop
  | .ok (inner, _) =>
    match command? inner with
    | none => .usage
    | some command => .invocation {
        config := inner.value? "config" <|> outer.value? "config"
        instanceName := (inner.value? "instance" <|> outer.value? "instance").getD defaultInstance
        promptsPassword := inner.has "password-prompt" || outer.has "password-prompt"
        command }

def ofArguments (args : List String) : Parsed :=
  match Level.program.read {} args with
  | .error stop => ofStop .program stop
  | .ok (outer, some ("query", rest)) => ofCommand .query .query Command.query? outer rest
  | .ok (outer, some ("select", rest)) => ofCommand .select .select Command.select? outer rest
  | .ok (_, some (_, words)) => (Topic.ofWords? words).elim .usage .help
  | .ok (_, none) => .usage

end Parsed

end SqlGateway.Cli
