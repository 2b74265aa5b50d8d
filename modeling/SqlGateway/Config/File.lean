import SqlGateway.Config.Document
import SqlGateway.Config.Source

/-!
# Configuration files

A file source reads its document anew each time it is asked.  `read` is how
the world `τ` answers for a path.

    file read p answers parse of the document at p
-/

namespace SqlGateway

/-- Why a file cannot be read as text. -/
inductive FileError where
  | missing
  | directory
  | notDirectory
  | denied
  | notUtf8
  | other (message : String)
  deriving DecidableEq

def FileError.text : FileError → String
  | .missing => "No such file or directory (os error 2)"
  | .denied => "Permission denied (os error 13)"
  | .notDirectory => "Not a directory (os error 20)"
  | .directory => "Is a directory (os error 21)"
  | .notUtf8 => "stream did not contain valid UTF-8"
  | .other message => message

abbrev FileReader (τ : Type) : Type :=
  String → StateM τ (Except FileError String)

namespace ConfigSource

variable {τ : Type}

/-- A document that is parsed each time; `current` is what it says now. -/
def document (current : ConfigM τ String) : ConfigM τ Configs := do
  MonadExcept.ofExcept (Configs.parse (← current))

def file (read : FileReader τ) (path : String) : ConfigM τ Configs :=
  document do
    match ← read path with
    | .ok content => return content
    | .error e => throw (.unreadable path e.text)

end ConfigSource

end SqlGateway
