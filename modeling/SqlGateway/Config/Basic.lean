import SqlGateway.Decimal.Signed
import SqlGateway.Error
import SqlGateway.Toml.Basic

/-!
# Instance configurations

How to reach one database.  Keys that are not known are kept as they are.

    displayText c = user@host:port/dbname, without the port when none is set
-/

namespace SqlGateway

/-- How a connection is encrypted. -/
inductive SslMode where
  | disable
  /-- Encrypted if the server can. -/
  | prefer
  /-- Encrypted, the certificate unchecked. -/
  | require
  /-- Encrypted, certificate and host name checked. -/
  | verifyFull
  deriving DecidableEq, Repr

namespace SslMode

def text : SslMode → String
  | .disable => "disable"
  | .prefer => "prefer"
  | .require => "require"
  | .verifyFull => "verify-full"

def all : List SslMode := [.disable, .prefer, .require, .verifyFull]

def ofText? (s : String) : Option SslMode :=
  all.find? fun m => m.text == s

theorem ofText?_text (m : SslMode) : ofText? m.text = some m := by
  cases m <;> decide

end SslMode

structure InstanceConfig where
  driver : String := ""
  host : String := "127.0.0.1"
  port : Option Nat := none
  user : String := "root"
  passwd : String := ""
  dbname : String := ""
  sslMode : SslMode := .disable
  /-- Self-signed certificates and the like are accepted. -/
  acceptInvalidCerts : Bool := false
  /-- Where the certificate of a private authority is. -/
  caCertPath : Option String := none
  /-- The other keys. -/
  extra : Keyed Toml := []

namespace InstanceConfig

def displayText (c : InstanceConfig) : String :=
  c.user ++ "@" ++ c.host
    ++ (match c.port with | some p => ":" ++ Decimal.ofNat p | none => "") ++ "/" ++ c.dbname

end InstanceConfig

/-- The instance meant when none is named. -/
def defaultInstance : String := "default"

/-- Configurations by the names of their instances. -/
abbrev Configs : Type := Keyed InstanceConfig

end SqlGateway
