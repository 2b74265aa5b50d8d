import SqlGateway.Json.Parser
import SqlGateway.Server.Postgres.Numeric
import SqlGateway.Statement

/-!
# PostgreSQL results

Cells come in the binary form of their type: numbers with the high octet first,
days and microseconds counted from 2000-01-01.  A cell that is not in the form
of its type is null.

    value .int4 (some [0, 0, 0, 7]) = .int 7
-/

namespace SqlGateway.Postgres

inductive ColumnType where
  | bool
  | int2
  | int4
  | int8
  | oid
  | float4
  | float8
  | numeric
  /-- The types whose cells are their text. -/
  | text
  /-- The one-octet type, whose cells are never read. -/
  | char
  | bytea
  | date
  | time
  /-- With a time zone or without: the cells are in universal time. -/
  | timestamp
  | json
  | jsonb
  | other
  deriving DecidableEq, Repr

namespace ColumnType

def ofName : String → ColumnType
  | "bool" => .bool
  | "int2" => .int2
  | "int4" => .int4
  | "int8" => .int8
  | "oid" => .oid
  | "float4" => .float4
  | "float8" => .float8
  | "numeric" => .numeric
  | "text" | "varchar" | "name" | "bpchar" => .text
  | "char" => .char
  | "bytea" => .bytea
  | "date" => .date
  | "time" => .time
  | "timestamp" | "timestamptz" => .timestamp
  | "json" => .json
  | "jsonb" => .jsonb
  | _ => .other

end ColumnType

/-- The number whose octets these are, the high one first. -/
def unsigned (bytes : List UInt8) : Nat :=
  bytes.foldl (fun n b => n * 256 + b.toNat) 0

/-- An unsigned number of exactly `size` octets. -/
def unsigned? (size : Nat) (bytes : List UInt8) : Option Nat :=
  if bytes.length = size then some (unsigned bytes) else none

/-- A signed number of exactly `size` octets. -/
def signed? (size : Nat) (bytes : List UInt8) : Option Int :=
  (unsigned? size bytes).map fun n => Decimal.wrapSigned (8 * size) n

/-- The day number of 2000-01-01. -/
def day2000 : Int := 10957

def microsPerDay : Int := 86_400_000_000

/-- The time of day that many microseconds from midnight, days dropped. -/
def timeOfMicros (micros : Int) : Time :=
  Time.ofNanoseconds ((micros % microsPerDay).toNat * 1000)

def pointOfMicros? (micros : Int) : Option DateTime :=
  (Date.ofDays? (day2000 + micros / microsPerDay)).map fun d => ⟨d, timeOfMicros micros⟩

def json? (bytes : List UInt8) : Option Json := do
  Json.parse? Json.depthLimit (← Text.Utf8.decode? bytes)

/-- The value of a cell that is there. -/
def value? (bytes : List UInt8) : ColumnType → Option Value
  | .bool => (unsigned? 1 bytes).map fun n => .bool (n != 0)
  | .int2 => (signed? 2 bytes).map .int
  | .int4 => (signed? 4 bytes).map .int
  | .int8 => (signed? 8 bytes).map .int
  | .oid => (unsigned? 4 bytes).map fun n => .int n
  | .float4 => (unsigned? 4 bytes).map fun n => .float (Float32.ofBits (UInt32.ofNat n)).toFloat
  | .float8 => (unsigned? 8 bytes).map fun n => .float (Float.ofBits (UInt64.ofNat n))
  | .numeric => (Numeric.cellText? bytes).map .text
  | .text => (Text.Utf8.decode? bytes).map .text
  | .char => none
  | .bytea => some (.bytes bytes)
  | .date => (signed? 4 bytes).bind fun days => (Date.ofDays? (day2000 + days)).map .date
  | .time => (signed? 8 bytes).map fun micros => .time (timeOfMicros micros)
  | .timestamp => ((signed? 8 bytes).bind pointOfMicros?).map .datetime
  | .json => (json? bytes).map .json
  | .jsonb =>
    match bytes with
    | 1 :: text => (json? text).map .json
    | _ => none
  | .other =>
    match Text.Utf8.decode? bytes with
    | some s => some (.text s)
    | none => some (.bytes bytes)

def value (type : ColumnType) (cell : Option (List UInt8)) : Value :=
  (cell.bind fun bytes => value? bytes type).getD .null

/-- What a server answers to one statement. -/
structure Reply where
  columns : List (String × ColumnType)
  rows : List (List (Option (List UInt8)))
  /-- The tag of a completed statement, or its failure after the rows. -/
  finish : Except DriverFailure String

namespace Reply

def row (columns : List (String × ColumnType)) (cells : List (Option (List UInt8))) : Row :=
  ⟨(columns.zip cells).map fun c => (c.1.1, value c.1.2 c.2)⟩

/-- The last word of a tag, when it is a count. -/
def affectedOfTag (tag : String) : Nat :=
  ((Text.splitAt ' ' tag).getLast?.bind Decimal.uint64?).getD 0

def affected (r : Reply) : Except DriverFailure Nat :=
  r.finish.map affectedOfTag

def batch (r : Reply) : Except DriverFailure Unit :=
  r.finish.map fun _ => ()

/-- The rows as they come.  A failure before the first of them is one of the statement itself. -/
def statement (r : Reply) : Except DriverFailure Statement :=
  match r.rows, r.finish with
  | [], .error f => .error f
  | rows, finish =>
    let items := rows.map fun cells => StreamItem.row (row r.columns cells)
    .ok (.ofItems (items ++ [match finish with | .error f => .failure f | .ok _ => .finish]))

end Reply

end SqlGateway.Postgres
