import SqlGateway.Config.Basic
import SqlGateway.Row

/-!
# SQL Server

What a SQL Server client library hands over, as values and failures of this
library.  Days are counted from 1900-01-01 in the older types and from
0001-01-01 in the newer ones; times of day come as counts of a unit that
depends on the type, and days are dropped from them.

    value (.numeric v s) = .text of v / 10 ^ s, with s places
-/

namespace SqlGateway.SqlServer

inductive Cell where
  | null
  | int (i : Int)
  | single (x : Float32)
  | double (x : Float)
  | bit (b : Bool)
  | text (s : String)
  | binary (b : List UInt8)
  /-- Sixteen octets. -/
  | guid (b : List UInt8)
  | numeric (unscaled : Int) (scale : Nat)
  | xml (document : Option String)
  /-- Days from 1900-01-01 and three hundredths of a second. -/
  | datetime (days : Int) (fragments : Nat)
  /-- Days from 1900-01-01 and minutes. -/
  | smallDatetime (days minutes : Nat)
  /-- Days from 0001-01-01. -/
  | date (days : Nat)
  /-- Units of `10 ^ -scale` seconds. -/
  | time (increments scale : Nat)
  | datetime2 (days increments scale : Nat)
  /-- A point in universal time; the offset is that of the place where it was set. -/
  | datetimeOffset (days increments scale : Nat) (offset : Int)

namespace Cell

/-- The day number of 1900-01-01. -/
def day1900 : Int := -25567

/-- The day number of 0001-01-01. -/
def dayOne : Int := -719162

/-- A time of day from nanoseconds since midnight. -/
def point? (days : Int) (nanos : Nat) : Option DateTime :=
  (Date.ofDays? days).map fun d => ⟨d, Time.ofNanoseconds (nanos % Time.nanosPerDay)⟩

/-- Nanoseconds of a count of `10 ^ -scale` seconds. -/
def nanos (increments scale : Nat) : Nat :=
  increments * Nat.pow 10 (9 - scale)

/-- Places of a remainder: zeros fill up to `scale` characters, of which a sign is one. -/
def placesText (scale : Nat) (remainder : Int) : String :=
  if remainder < 0 then "-" ++ Text.padded (scale - 1) remainder.natAbs
  else Text.padded scale remainder.natAbs

/-- Quotient and remainder each carry the sign of the number. -/
def numericText (unscaled : Int) (scale : Nat) : String :=
  Decimal.ofInt (unscaled.tdiv (Nat.pow 10 scale)) ++ "."
    ++ placesText scale (unscaled.tmod (Nat.pow 10 scale))

/-- Hexadecimal digits in groups of eight, four, four, four and twelve. -/
def guidText (b : List UInt8) : String :=
  let hex (start length : Nat) := Text.Hex.encode .lower ((b.drop start).take length)
  "-".intercalate [hex 0 4, hex 4 2, hex 6 2, hex 8 2, hex 10 6]

def xmlText : Option String → String
  | some document =>
    "Xml(Some(XmlData \x7b data: " ++ Text.inspect document ++ ", schema: None \x7d))"
  | none => "Xml(None)"

def ofOption {α : Type} (make : α → Value) : Option α → Value
  | some a => make a
  | none => .null

def value : Cell → Value
  | .null => .null
  | .int i => .int i
  | .single x => .float x.toFloat
  | .double x => .float x
  | .bit b => .bool b
  | .text s => .text s
  | .binary b => .bytes b
  | .guid b => .text (guidText b)
  | .numeric unscaled scale => .text (numericText unscaled scale)
  | .xml document => .text (xmlText document)
  | .datetime days fragments =>
    ofOption .datetime (point? (day1900 + days) (fragments * 1_000_000_000 / 300))
  | .smallDatetime days minutes =>
    ofOption .datetime (point? (day1900 + days) (minutes * 60_000_000_000))
  | .date days => ofOption .date (Date.ofDays? (dayOne + days))
  | .time increments scale =>
    .time (Time.ofNanoseconds (nanos increments scale % Time.nanosPerDay))
  | .datetime2 days increments scale | .datetimeOffset days increments scale _ =>
    ofOption .datetime (point? (dayOne + days) (nanos increments scale))

end Cell

/-- The SQLSTATE of an error number; the server sends no SQLSTATE itself. -/
def stateOf? : Nat → Option String
  | 102 | 105 | 156 | 170 => some "42000"
  | 207 => some "42S22"
  | 208 => some "42S02"
  | 209 => some "42702"
  | 515 | 547 | 2601 | 2627 => some "23000"
  | 8134 => some "22012"
  | 1205 => some "40001"
  | 3902 | 3903 => some "25000"
  | _ => none

/-- An error of the client library. -/
inductive Failure where
  /-- An error that the server reported, with the library's text of it. -/
  | server (code : Nat) (message text : String)
  | io (message : String)
  | tls (message : String)
  /-- The server names another address to connect to. -/
  | routing (host : String) (port : Nat)
  | protocol (message : String)
  | conversion (message : String)
  | utf8

namespace Failure

def text : Failure → String
  | .server _ _ text => text
  | .io message => "An error occured during the attempt of performing I/O: " ++ message
  | .tls message => "Error forming TLS connection: " ++ message
  | .routing host port =>
    "Server requested a connection to an alternative address: \x60" ++ host ++ ":"
      ++ Decimal.ofNat port ++ "\x60"
  | .protocol message => "Protocol error: " ++ message
  | .conversion message => "Conversion error: " ++ message
  | .utf8 => "UTF-8 error"

/-- The SQLSTATE of a connection that cannot be made. -/
def unreachableState : String := "08001"

def toDriver (f : Failure) : DriverFailure :=
  match f with
  | .server code message text =>
    { message, sqlstate := stateOf? code, vendorCode := some code, source := text }
  | .io _ | .tls _ | .routing .. => { message := f.text, sqlstate := some unreachableState }
  | .protocol _ | .conversion _ | .utf8 => { message := f.text }

end Failure

end SqlGateway.SqlServer
