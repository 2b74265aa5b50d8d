import SqlGateway.Config.Basic
import SqlGateway.Json.Printer

/-!
# Configurations as JSON text

The known keys in a fixed order, without the password, then the others by
name.  Dates and times are texts, and a double that is no number is null.

    jsonText c = { "driver": …, "host": …, …, the other keys }
-/

namespace SqlGateway

namespace Toml

mutual

def toJson : Toml → Json
  | .string s => .string s
  | .int i => .int i
  | .float x => .number (.float x)
  | .bool b => .bool b
  | .datetime t => .string t.text
  | .array items => .array (toJsonItems items)
  | .table entries => .object (toJsonEntries entries)

def toJsonItems : List Toml → List Json
  | [] => []
  | v :: vs => toJson v :: toJsonItems vs

def toJsonEntries : List (String × Toml) → Keyed Json
  | [] => []
  | (key, v) :: es => (key, toJson v) :: toJsonEntries es

end

end Toml

namespace InstanceConfig

/-- The known keys that are shown, in the order in which they are shown. -/
def shownMembers (c : InstanceConfig) : List (String × Json) :=
  let text (s : Option String) : Json := s.elim .null .string
  [("driver", .string c.driver), ("host", .string c.host),
    ("port", c.port.elim .null fun p => .int p), ("user", .string c.user),
    ("dbname", .string c.dbname), ("ssl_mode", .string c.sslMode.text),
    ("accept_invalid_certs", .bool c.acceptInvalidCerts), ("ca_cert_path", text c.caCertPath)]

def jsonText (c : InstanceConfig) : String :=
  (Json.object (c.shownMembers ++ Toml.toJsonEntries c.extra)).compact

end InstanceConfig

end SqlGateway
