import SqlGateway.Config.Basic

/-!
# PostgreSQL connection strings

Settings as `key=value` with a blank between them.  A value that is free text
stands between apostrophes, with a backslash before each apostrophe and each
backslash inside.

    host='127.0.0.1' port=5432 dbname='app' user='root' password='' sslmode=disable connect_timeout=10
-/

namespace SqlGateway.Postgres

/-- A backslash before each `mark`. -/
def escapeMark (mark : Char) (cs : List Char) : List Char :=
  cs.flatMap fun c => if c = mark then ['\\', c] else [c]

/-- Backslashes come first, so that those before apostrophes are not escaped again. -/
def quoteValue (s : String) : String :=
  .ofList ('\x27' :: escapeMark '\x27' (escapeMark '\\' s.toList) ++ ['\x27'])

def defaultPort : Nat := 5432

/-- How long a connection may take to open, in seconds. -/
def connectTimeout : Nat := 10

def sslText : SslMode → String
  | .disable => "disable"
  | .prefer => "prefer"
  | .require | .verifyFull => "require"

/-- The settings with their values as they are written. -/
def settings (c : InstanceConfig) : List (String × String) :=
  [("host", quoteValue c.host), ("port", Decimal.ofNat (c.port.getD defaultPort)),
    ("dbname", quoteValue c.dbname), ("user", quoteValue c.user),
    ("password", quoteValue c.passwd), ("sslmode", sslText c.sslMode),
    ("connect_timeout", Decimal.ofNat connectTimeout)]

def connectionString (c : InstanceConfig) : String :=
  " ".intercalate ((settings c).map fun s => s.1 ++ "=" ++ s.2)

end SqlGateway.Postgres
