import SqlGateway.Cli.Invocation

/-!
# Help texts

What the program says about itself: a line on what it is for, how it is used,
and a list of what it takes, with the explanations in one column.
-/

namespace SqlGateway.Cli

def versionText : String := "sqladapter 0.1.0\n"

/-- What is taken and what it is for. -/
abbrev HelpEntry : Type := String × String

/-- Explanations begin two columns after the longest entry. -/
def entriesText (title : String) (entries : List HelpEntry) : String :=
  let width := (entries.map fun e => e.1.length).foldl max 0
  let line (e : HelpEntry) : String :=
    "  " ++ e.1 ++ .ofList (List.replicate (width - e.1.length) ' ') ++ "  " ++ e.2 ++ "\n"
  title ++ ":\n" ++ "".intercalate (entries.map line)

/-- Sections with a blank line between them. -/
def helpText (about usage : String) (sections : List String) : String :=
  "\n".intercalate ([about ++ "\n", "Usage: " ++ usage ++ "\n"] ++ sections)

def configEntry : HelpEntry :=
  ("    --config <CONFIG>",
    "Configuration file (defaults to <config dir>/sqladapter/database.toml)")

def instanceEntry : HelpEntry :=
  ("    --instance <INSTANCE>", "Instance name from the configuration file [default: default]")

def promptEntry : HelpEntry :=
  ("    --password-prompt", "Ask for the password instead of reading it from the configuration")

def helpEntry : HelpEntry := ("-h, --help", "Print help")

def queryAbout : String := "Run raw SQL and print the rows as JSON"

def selectAbout : String := "Build a SELECT and print its SQL, or run it with --run"

def helpAbout : String := "Print this message or the help of the given subcommand(s)"

def Topic.text : Topic → String
  | .program =>
    helpText "Dialect-neutral SQL request builders and adapters for MySQL, SQL Server and PostgreSQL"
      "sqladapter [OPTIONS] <COMMAND>"
      [entriesText "Commands" [("query", queryAbout), ("select", selectAbout), ("help", helpAbout)],
        entriesText "Options"
          [configEntry, instanceEntry, promptEntry, helpEntry, ("-V, --version", "Print version")]]
  | .query =>
    helpText queryAbout "sqladapter query [OPTIONS] <SQL>"
      [entriesText "Arguments" [("<SQL>", "")],
        entriesText "Options"
          [configEntry, ("    --exec", "Print the affected row count instead of rows"),
            instanceEntry, promptEntry, helpEntry]]
  | .select =>
    helpText selectAbout "sqladapter select [OPTIONS] --table <TABLE>"
      [entriesText "Options"
        [configEntry, ("    --table <TABLE>", ""), instanceEntry,
          ("    --where <CONDITIONS>",
            "Condition as raw SQL or a JSON list such as '[\"id\", 3]'"),
          ("    --order-by <ORDER_BY>", ""), promptEntry, ("    --number <NUMBER>", ""),
          ("    --offset <OFFSET>", ""), ("    --run", "Execute the query and print the rows as JSON"),
          helpEntry]]
  | .help =>
    helpText helpAbout "sqladapter help [COMMAND]..."
      [entriesText "Arguments" [("[COMMAND]...", "Print help for the subcommand(s)")]]

end SqlGateway.Cli
