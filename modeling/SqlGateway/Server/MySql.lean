import SqlGateway.Config.Basic
import SqlGateway.Row

/-!
# MySQL servers

What a MySQL client library hands over, as rows and failures of this library,
and what it is told before it connects.

    value (.date y m d 0 0 0 0) = .date y-m-d      for a day of the calendar
    value (.date y m d …)       = .text "y-m-d"    for any other, such as 0000-00-00
-/

namespace SqlGateway.MySql

/-- Hours, minutes, seconds and microseconds, as they were sent. -/
structure Clock where
  hour : Nat
  minute : Nat
  second : Nat
  micros : Nat
  deriving DecidableEq

namespace Clock

def isMidnight (c : Clock) : Bool :=
  c.hour == 0 && c.minute == 0 && c.second == 0 && c.micros == 0

/-- A second with more than a million microseconds is a leap second. -/
def time? (c : Clock) : Option Time :=
  Time.make? c.hour c.minute c.second (c.micros * 1000)

end Clock

/-- A cell of a result. -/
inductive Cell where
  | null
  | bytes (b : List UInt8)
  | int (i : Int)
  | uint (n : Nat)
  | single (x : Float32)
  | double (x : Float)
  | date (year month day : Nat) (clock : Clock)
  /-- A duration: the days come on top of the hours. -/
  | time (negative : Bool) (days : UInt32) (clock : Clock)

namespace Cell

/-- The parts of a day that is in no calendar. -/
def dayText (year month day : Nat) : String :=
  Text.padded 4 year ++ "-" ++ Text.padded 2 month ++ "-" ++ Text.padded 2 day

/-- Whole hours; the sum is one of 32 bits. -/
def hours (days : UInt32) (c : Clock) : Nat :=
  (UInt32.ofNat c.hour + days * 24).toNat

def durationText (negative : Bool) (days : UInt32) (c : Clock) : String :=
  (if negative then "-" else "") ++ Text.padded 2 (hours days c) ++ ":" ++ Text.padded 2 c.minute
    ++ ":" ++ Text.padded 2 c.second

/-- The time of day that a duration is, if it is one. -/
def timeOfDay? (negative : Bool) (days : UInt32) (c : Clock) : Option Time :=
  if !negative && days == 0 then c.time? else none

def value : Cell → Value
  | .null => .null
  | .bytes b =>
    match Text.Utf8.decode? b with
    | some s => .text s
    | none => .bytes b
  | .int i => .int i
  | .uint n => .uint n
  | .single x => .float x.toFloat
  | .double x => .float x
  | .date year month day c =>
    match Date.make? year month day with
    | none => .text (dayText year month day)
    | some d =>
      if c.isMidnight then .date d
      else match c.time? with
        | some t => .datetime ⟨d, t⟩
        | none => .null
  | .time negative days c =>
    match timeOfDay? negative days c with
    | some t => .time t
    | none => .text (durationText negative days c)

end Cell

def row (cells : List (String × Cell)) : Row :=
  ⟨cells.map fun c => (c.1, c.2.value)⟩

/-- An error of the client library. -/
inductive Failure where
  | server (code : Nat) (state message : String)
  | io (message : String)
  /-- The server ended the connection. -/
  | closedByServer
  | other (message : String)

namespace Failure

def text : Failure → String
  | .server code state message =>
    "Server error: \x60ERROR " ++ state ++ " (" ++ Decimal.ofNat code ++ "): " ++ message ++ "'"
  | .io message => "Input/output error: Input/output error: " ++ message
  | .closedByServer => "Driver error: \x60Connection to the server is closed.'"
  | .other message => "Other error: " ++ message

/-- The SQLSTATE of a connection that cannot be made. -/
def unreachableState : String := "08001"

def toDriver (f : Failure) : DriverFailure :=
  match f with
  | .server code state message =>
    { message, sqlstate := some state, vendorCode := some code, source := f.text }
  | .io _ | .closedByServer => { message := f.text, sqlstate := some unreachableState }
  | .other _ => { message := f.text }

end Failure

/-- The failure of a statement on a connection that was closed here. -/
def closed : DriverFailure :=
  { message := "connection already closed", sqlstate := some "08003" }

structure Tls where
  acceptInvalidCerts : Bool := false
  skipDomainValidation : Bool := false
  deriving DecidableEq

structure Options where
  host : String
  port : Nat
  user : String
  passwd : String
  database : Option String
  /-- Statements to run on a new connection. -/
  start : List String := ["SET NAMES utf8"]
  tls : Option Tls
  deriving DecidableEq

def defaultPort : Nat := 3306

/-- Certificates are checked in the strictest mode whatever the configuration accepts. -/
def tls? (c : InstanceConfig) : Option Tls :=
  match c.sslMode with
  | .disable => none
  | .prefer | .require => some { acceptInvalidCerts := c.acceptInvalidCerts }
  | .verifyFull => some {}

def options (c : InstanceConfig) : Options where
  host := c.host
  port := c.port.getD defaultPort
  user := c.user
  passwd := c.passwd
  database := if c.dbname.isEmpty then none else some c.dbname
  tls := tls? c

end SqlGateway.MySql
