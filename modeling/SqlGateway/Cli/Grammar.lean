import SqlGateway.Decimal.Signed
import SqlGateway.Text.Pieces

/-!
# Command-line arguments

Arguments are read from left to right against the options of a level, up to a
subcommand or to the end.  A value follows its option as the next argument or
after `=`; as an argument of its own it does not begin with a dash, a lone dash
apart.  After `--` everything is positional.

    read level {} ["--name", "v"] = read level {} ["--name=v"]    for a v without a dash
-/

namespace SqlGateway.Cli

inductive OptionKind where
  | flag
  | text
  /-- A text that is not empty. -/
  | path
  /-- A signed 64-bit number. -/
  | number
  /-- A text, any number of times. -/
  | texts
  deriving DecidableEq, Repr

/-- The options and arguments that one level takes. -/
structure Level where
  options : List (String × OptionKind)
  positionals : Nat := 0
  subcommands : List String := []
  hasVersion : Bool := false

/-- What was given at a level, in order; a flag has the empty value. -/
structure Given where
  options : List (String × String) := []
  positionals : List String := []

/-- Why reading ends without an invocation. -/
inductive Stop where
  | usage
  | help
  | version
  deriving DecidableEq, Repr

namespace Given

def has (g : Given) (name : String) : Bool :=
  g.options.any fun o => o.1 == name

def values (g : Given) (name : String) : List String :=
  (g.options.filter fun o => o.1 == name).map (·.2)

def value? (g : Given) (name : String) : Option String :=
  (g.values name).head?

def number? (g : Given) (name : String) : Option Int :=
  (g.value? name).bind Decimal.int64?

end Given

namespace OptionKind

def accepts (value : String) : OptionKind → Bool
  | .path => !value.isEmpty
  | .number => (Decimal.int64? value).isSome
  | .flag | .text | .texts => true

end OptionKind

namespace Level

def option? (level : Level) (name : String) : Option OptionKind :=
  (level.options.find? fun o => o.1 == name).map (·.2)

/-- One option more; only the option for several texts may come again. -/
def addOption (kind : OptionKind) (g : Given) (name value : String) : Except Stop Given :=
  if g.has name && kind != .texts || !kind.accepts value then .error .usage
  else .ok { g with options := g.options ++ [(name, value)] }

def addPositional (level : Level) (g : Given) (value : String) : Except Stop Given :=
  if g.positionals.length < level.positionals then
    .ok { g with positionals := g.positionals ++ [value] }
  else .error .usage

/-- The name of a long option and the value attached to it. -/
def splitValue (cs : List Char) : String × Option String :=
  match Text.splitChars '=' cs with
  | name :: rest@(_ :: _) => (.ofList name, some (.ofList (['='].intercalate rest)))
  | _ => (.ofList cs, none)

/-- An argument that cannot be the value of the option before it. -/
def isDashed (arg : String) : Bool :=
  Text.startsWith "-" arg && arg != "-"

/-- The short options: help, and at some levels the version. -/
def shortStop (level : Level) (c : Char) : Stop :=
  if c = 'h' then .help
  else if c = 'V' ∧ level.hasVersion then .version
  else .usage

/-- The long options that are no options of the level. -/
def longStop (level : Level) : String × Option String → Stop
  | ("help", none) => .help
  | ("version", none) => if level.hasVersion then .version else .usage
  | _ => .usage

/-- What was given, and the subcommand that ended the level with the arguments after it. -/
def read (level : Level) : Given → List String →
    Except Stop (Given × Option (String × List String))
  | g, [] => .ok (g, none)
  | g, arg :: rest =>
    if arg = "--" then do return (← rest.foldlM level.addPositional g, none)
    else match arg.toList with
    | '-' :: '-' :: body =>
      let (name, attached) := splitValue body
      match level.option? name, attached, rest with
      | none, attached, _ => .error (level.longStop (name, attached))
      | some .flag, none, rest => do read level (← addOption .flag g name "") rest
      | some .flag, some _, _ => .error .usage
      | some kind, some value, rest => do read level (← addOption kind g name value) rest
      | some kind, none, value :: rest => do
        if isDashed value then throw .usage
        read level (← addOption kind g name value) rest
      | some _, none, [] => .error .usage
    | '-' :: c :: _ => .error (level.shortStop c)
    | _ =>
      if level.subcommands.contains arg then .ok (g, some (arg, rest))
      else do read level (← level.addPositional g arg) rest

end Level

end SqlGateway.Cli
