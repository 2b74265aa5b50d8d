import SqlGateway.Cli.Run

/-!
# The program

Reads files and the environment and prints what a run leaves behind.  No native
driver is part of it, so it shows queries and runs none.
-/

namespace SqlGateway.Cli

/-- Every attempt to connect fails. -/
def absentDriver : Connector Unit := fun _ =>
  throw { message := "no native driver for this server is part of the program",
          sqlstate := some "08001" }

def fileErrorOf : IO.Error → FileError
  | .noFileOrDirectory .. => .missing
  | .permissionDenied .. => .denied
  | .inappropriateType .. => .notDirectory
  | e => .other (toString e)

def readFile (path : String) : IO (Except FileError String) := do
  try
    let bytes ← IO.FS.readBinFile path
    match String.fromUTF8? bytes with
    | some content => return .ok content
    | none => return .error .notUtf8
  catch e =>
    return .error (fileErrorOf e)

/-- The password of the environment, or what is typed. -/
def askPassword (config : InstanceConfig) : IO String := do
  match ← IO.getEnv "SQLADAPTER_PASSWORD" with
  | some password => return password
  | none =>
    IO.print ("Password for " ++ config.displayText ++ ": ")
    (← IO.getStdout).flush
    return Text.trim (← (← IO.getStdin).getLine)

def surroundings : IO (Surroundings IO Unit) := do
  let defaultConfig := defaultConfigPath (← IO.getEnv "XDG_CONFIG_HOME") (← IO.getEnv "HOME")
  return { registry := drivers fun _ => absentDriver, read := readFile, defaultConfig,
           password := askPassword }

def runProgram (args : List String) : IO UInt32 := do
  let (outcome, _) ← (run (← surroundings) args).run ()
  IO.print outcome.stdout
  IO.eprint outcome.stderr
  return UInt32.ofNat outcome.code

end SqlGateway.Cli

def main (args : List String) : IO UInt32 :=
  SqlGateway.Cli.runProgram args
