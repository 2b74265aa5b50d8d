import SqlGateway.Exchange.Value
import SqlGateway.Server.MySql
import SqlGateway.Server.Postgres.Cell
import SqlGateway.Server.SqlServer

/-!
# Native results as JSON

The cells and failures of each server by the name of their kind, with numbers
as decimal text, octets and the bits of doubles in hexadecimal, and the parts of
dates and times as lists.
-/

namespace SqlGateway

namespace MySql

def Clock.ofParts (hour minute second micros : Int) : Clock :=
  ⟨hour.toNat, minute.toNat, second.toNat, micros.toNat⟩

def Cell.ofJson? (kind : String) (j : Json) : Option Cell :=
  match kind with
  | "null" => some .null
  | "bytes" => j.asBytes?.map .bytes
  | "int" => j.asDecimal?.map .int
  | "uint" => j.asDecimal?.map fun i => .uint i.toNat
  | "float" => j.asHex?.map fun n => .single (Float32.ofBits (UInt32.ofNat n))
  | "double" => (Value.float? j).map .double
  | "date" => do
    let [y, m, d, h, i, s, us] ← j.listOf? Json.asInt? | none
    return .date y.toNat m.toNat d.toNat (Clock.ofParts h i s us)
  | "time" => do
    let [negative, days, h, i, s, us] ← j.listOf? Json.asInt? | none
    return .time (negative != 0) (UInt32.ofNat days.toNat) (Clock.ofParts h i s us)
  | _ => none

/-- A cell with its column: name, kind and content. -/
def Cell.named? (j : Json) : Option (String × Cell) := do
  let [name, kind, content] ← j.asArray? | none
  return (← name.asString?, ← Cell.ofJson? (← kind.asString?) content)

def Failure.ofJson? (j : Json) : Option Failure := do
  match ← j.text? "kind" with
  | "server" =>
    return .server (← (← j.member? "code").asNat?) (← j.text? "state") (← j.text? "message")
  | "io" => return .io (← j.text? "message")
  | "driver" => return .closedByServer
  | "other" => return .other (← j.text? "message")
  | _ => none

def Tls.toJson (t : Tls) : Json :=
  .ofMembers [("accept_invalid_certs", .bool t.acceptInvalidCerts),
    ("skip_domain_validation", .bool t.skipDomainValidation)]

def Options.toJson (o : Options) : Json :=
  .ofMembers [("host", .string o.host), ("port", .nat o.port), ("user", .string o.user),
    ("pass", .string o.passwd), ("db", Json.orNull .string o.database),
    ("init", .array (o.start.map .string)), ("ssl", Json.orNull Tls.toJson o.tls)]

end MySql

namespace SqlServer

/-- The octets of an identifier, with hyphens or braces anywhere. -/
def guid? (s : String) : Option (List UInt8) :=
  Text.Hex.decodeChars? (s.toList.filter fun c => c != '-' && c != '\x7b' && c != '\x7d')

def Cell.ofNumbers? (kind : String) (j : Json) : Option Cell := do
  match kind, ← j.listOf? Json.asInt? with
  | "datetime", [days, fragments] => return .datetime days fragments.toNat
  | "smalldatetime", [days, minutes] => return .smallDatetime days.toNat minutes.toNat
  | "date", [days] => return .date days.toNat
  | "time", [increments, scale] => return .time increments.toNat scale.toNat
  | "datetime2", [days, increments, scale] =>
    return .datetime2 days.toNat increments.toNat scale.toNat
  | "datetimeoffset", [days, increments, scale, offset] =>
    return .datetimeOffset days.toNat increments.toNat scale.toNat offset
  | _, _ => none

def Cell.ofJson? (kind : String) (j : Json) : Option Cell :=
  match kind, j with
  | "xml", .null => some (.xml none)
  | _, .null => some .null
  | "f32", j => j.asHex?.map fun n => .single (Float32.ofBits (UInt32.ofNat n))
  | "f64", j => (Value.float? j).map .double
  | "bit", j => j.asBool?.map .bit
  | "string", j => j.asString?.map .text
  | "binary", j => j.asBytes?.map .binary
  | "guid", j => (j.asString?.bind guid?).map .guid
  | "numeric", .array [unscaled, scale] => do
    return .numeric (← unscaled.asDecimal?) (← scale.asNat?)
  | "xml", j => j.asString?.map fun s => .xml (some s)
  | "u8", j | "i16", j | "i32", j | "i64", j => j.asDecimal?.map .int
  | kind, j => Cell.ofNumbers? kind j

def Failure.ofJson? (j : Json) : Option Failure := do
  let message ← j.withDefault? Json.asString? "message" ""
  match ← j.text? "kind" with
  | "io" => return .io message
  | "tls" => return .tls message
  | "routing" => return .routing message (← j.withDefault? Json.asNat? "port" 0)
  | "protocol" => return .protocol message
  | "conversion" => return .conversion message
  | "utf8" => return .utf8
  | _ => none

end SqlServer

namespace Postgres

def column? (j : Json) : Option (String × ColumnType) := do
  let [name, type] ← j.asArray? | none
  return (← name.asString?, .ofName (← type.asString?))

def cell? : Json → Option (Option (List UInt8))
  | .null => some none
  | j => j.asBytes?.map some

def failure? (j : Json) : Option DriverFailure := do
  return { message := ← j.text? "message", sqlstate := some (← j.text? "code") }

/-- A reply completes with a tag unless it fails. -/
def Reply.ofJson? (j : Json) : Option Reply := do
  let columns ← j.withDefault? (Json.listOf? column?) "columns" []
  let rows ← j.withDefault? (Json.listOf? (Json.listOf? cell?)) "rows" []
  let tag ← j.withDefault? Json.asString? "tag" "SELECT 0"
  let failure ← j.optional? failure? "fail"
  return { columns, rows, finish := match failure with | some f => .error f | none => .ok tag }

end Postgres

end SqlGateway
