import SqlGateway.Config.Basic
import SqlGateway.Toml.Parser

/-!
# Configuration documents

The tables of a document are instances.  Its other entries belong to the
instance `default`, where the entries of a table of that name win over them.

    driver = "mysql"        # of the default instance
    dbname = "app"

    [reporting]
    driver = "mssql"
    host = "10.0.0.4"
-/

namespace SqlGateway

namespace Toml

/-- The text of a string; dates and times count as their text. -/
def asText? : Toml → Option String
  | .string s => some s
  | .datetime t => some t.text
  | _ => none

mutual

/-- The same value with text for dates and times. -/
def withoutDates : Toml → Toml
  | .datetime t => .string t.text
  | .array items => .array (withoutDatesItems items)
  | .table entries => .table (withoutDatesEntries entries)
  | v => v

def withoutDatesItems : List Toml → List Toml
  | [] => []
  | v :: vs => withoutDates v :: withoutDatesItems vs

def withoutDatesEntries : List (String × Toml) → Keyed Toml
  | [] => []
  | (key, v) :: es => (key, withoutDates v) :: withoutDatesEntries es

end

end Toml

namespace SslMode

/-- A mode by its name; the name may also be the key of an empty table or array. -/
def ofToml? : Toml → Option SslMode
  | .string s => ofText? s
  | .datetime t => ofText? t.text
  | .table [(s, .table [])] => ofText? s
  | .table [(s, .array [])] => ofText? s
  | _ => none

end SslMode

namespace InstanceConfig

def greatestPort : Int := 65535

/-- The value of a known key, or the default if there is none; nothing if it has the wrong type. -/
def entry? {α : Type} (entries : Keyed Toml) (key : String) (read : Toml → Option α)
    (default : α) : Option α :=
  match Keyed.find? key entries with
  | none => some default
  | some v => read v

def readPort? : Toml → Option (Option Nat)
  | .int i => if 0 ≤ i ∧ i ≤ greatestPort then some (some i.toNat) else none
  | _ => none

def readFlag? : Toml → Option Bool
  | .bool b => some b
  | _ => none

def knownKeys : List String :=
  ["driver", "host", "port", "user", "passwd", "dbname", "ssl_mode", "accept_invalid_certs",
    "ca_cert_path"]

/-- The configuration of an instance's entries, if every known key has a value of its type. -/
def ofEntries? (entries : Keyed Toml) : Option InstanceConfig := do
  let d : InstanceConfig := {}
  return {
    driver := ← entry? entries "driver" Toml.asText? d.driver
    host := ← entry? entries "host" Toml.asText? d.host
    port := ← entry? entries "port" readPort? d.port
    user := ← entry? entries "user" Toml.asText? d.user
    passwd := ← entry? entries "passwd" Toml.asText? d.passwd
    dbname := ← entry? entries "dbname" Toml.asText? d.dbname
    sslMode := ← entry? entries "ssl_mode" SslMode.ofToml? d.sslMode
    acceptInvalidCerts := ← entry? entries "accept_invalid_certs" readFlag? d.acceptInvalidCerts
    caCertPath := ← entry? entries "ca_cert_path" (fun v => v.asText?.map some) d.caCertPath
    extra := Toml.withoutDatesEntries (entries.filter fun e => !knownKeys.contains e.1) }

end InstanceConfig

namespace Configs

/-- The top-level tables. -/
def tables : Keyed Toml → Keyed (Keyed Toml)
  | [] => []
  | (name, .table entries) :: rest => (name, entries) :: tables rest
  | _ :: rest => tables rest

/-- The top-level entries that are not tables. -/
def flat (document : Keyed Toml) : Keyed Toml :=
  document.filter fun e => !e.2.isTable

/-- Entries added where their keys are not taken. -/
def fill (entries more : Keyed Toml) : Keyed Toml :=
  more.foldl (fun es e => if Keyed.contains e.1 es then es else Keyed.insert e.1 e.2 es) entries

/-- The entries of each instance, by name. -/
def instances (document : Keyed Toml) : Keyed (Keyed Toml) :=
  let named := tables document
  let flat := flat document
  if flat.isEmpty then named
  else Keyed.insert defaultInstance (fill ((Keyed.find? defaultInstance named).getD []) flat) named

/-- The configurations; the first instance with a value of the wrong type is the failure. -/
def ofInstances : Keyed (Keyed Toml) → Except ConfigError Configs
  | [] => .ok []
  | (name, entries) :: rest =>
    match InstanceConfig.ofEntries? entries with
    | none => .error (.invalidInstance name)
    | some c => do return (name, c) :: (← ofInstances rest)

def parse (document : String) : Except ConfigError Configs :=
  match Toml.parse? document with
  | none => .error .invalidDocument
  | some entries => ofInstances (instances entries)

end Configs

end SqlGateway
