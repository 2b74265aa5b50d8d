import SqlGateway.Config.Basic
import SqlGateway.Exchange.Value

/-!
# Configurations as JSON

All keys of a configuration, the password among them, and its display text.
The other keys hold TOML values, each with its kind.
-/

namespace SqlGateway

mutual

def Toml.tagged : Toml → Json
  | .string s => .object [("string", .string s)]
  | .int i => .object [("int", .string (Decimal.ofInt i))]
  | .float x => (Value.float x).tagged
  | .bool b => .bool b
  | .datetime t => .object [("string", .string t.text)]
  | .array items => .array (Toml.taggedItems items)
  | .table entries => .object [("table", .object (Toml.taggedEntries entries))]

def Toml.taggedItems : List Toml → List Json
  | [] => []
  | v :: vs => v.tagged :: Toml.taggedItems vs

def Toml.taggedEntries : List (String × Toml) → Keyed Json
  | [] => []
  | (key, v) :: es => (key, v.tagged) :: Toml.taggedEntries es

end

namespace InstanceConfig

def toJson (c : InstanceConfig) : Json :=
  .ofMembers [("driver", .string c.driver), ("host", .string c.host),
    ("port", Json.orNull Json.nat c.port), ("user", .string c.user), ("passwd", .string c.passwd),
    ("dbname", .string c.dbname), ("ssl_mode", .string c.sslMode.text),
    ("accept_invalid_certs", .bool c.acceptInvalidCerts),
    ("ca_cert_path", Json.orNull .string c.caCertPath),
    ("extra", .object (Toml.taggedEntries c.extra)), ("display", .string c.displayText)]

/-- The keys that say how to connect; those left out have their defaults. -/
def ofJson? (j : Json) : Option InstanceConfig := do
  let d : InstanceConfig := {}
  let text (name default : String) := j.withDefault? Json.asString? name default
  return {
    host := ← text "host" d.host
    port := ← j.optional? Json.asNat? "port"
    user := ← text "user" d.user
    passwd := ← text "passwd" d.passwd
    dbname := ← text "dbname" d.dbname
    sslMode := ← j.withDefault? (fun m => m.asString?.bind SslMode.ofText?) "ssl_mode" d.sslMode
    acceptInvalidCerts := ← j.withDefault? Json.asBool? "accept_invalid_certs" d.acceptInvalidCerts }

end InstanceConfig

def Configs.toJson (cs : Configs) : Json :=
  .object (cs.map fun c => (c.1, c.2.toJson))

end SqlGateway
