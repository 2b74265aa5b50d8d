import SqlGateway.Json.Printer
import SqlGateway.Text.Utf8

/-!
# What can go wrong

Three kinds of error reach a caller: a configuration that cannot be used, a
query that cannot be built, and a failure of the native driver.  The last is
classified by the SQLSTATE that the server sent, or by its own error number.

    (SqlError.ofFailure f a).message = category: text of f (while a)
-/

namespace SqlGateway

/-- Kinds of native failures. -/
inductive Category where
  | syntaxError
  | semantic
  | execution
  | transaction
  | connection
  | unknownDatabase
  | unknown
  deriving DecidableEq, Repr

namespace Category

def text : Category → String
  | .syntaxError => "Syntax Error"
  | .semantic => "Semantic Error"
  | .execution => "Execution Error"
  | .transaction => "Transaction Error"
  | .connection => "Connection Error"
  | .unknownDatabase => "Unknown Database"
  | .unknown => "Error"

/-- The class that the first two characters of a code name. -/
def ofClass (state : String) : List Char → Category
  | ['4', '2'] => if state = "42601" ∨ state = "42000" then .syntaxError else .semantic
  | ['2', '2'] | ['2', '3'] | ['5', '3'] | ['5', '4'] | ['5', '5'] | ['5', '7'] => .execution
  | ['2', '5'] | ['4', '0'] => .transaction
  | ['0', '8'] => .connection
  | _ => .unknown

/-- The class is the first two octets of the code.  A code whose second octet is inside a character
has no class, and this has no answer. -/
def ofState? (state : String) : Option Category :=
  if state.utf8ByteSize < 2 then some .unknown
  else if state = "3D000" then some .unknownDatabase
  else if Text.Utf8.isBoundary 2 state then some (ofClass state (state.toList.take 2))
  else none

/-- The error numbers with which servers say that a database does not exist. -/
def isUnknownDatabaseCode (code : Int) : Bool :=
  code == 1049 || code == 4060

def classify? (state : Option String) (vendorCode : Option Int) : Option Category :=
  if vendorCode.any isUnknownDatabaseCode then some .unknownDatabase
  else match state with
    | some s => ofState? s
    | none => some .unknown

end Category

/-- A failure as a native driver reports it. -/
structure DriverFailure where
  message : String
  sqlstate : Option String := none
  vendorCode : Option Int := none
  /-- The text of the error underneath. -/
  source : String := message
  deriving DecidableEq

namespace DriverFailure

def category? (f : DriverFailure) : Option Category :=
  Category.classify? f.sqlstate f.vendorCode

def text (f : DriverFailure) : String :=
  match f.sqlstate with
  | some state => "[" ++ state ++ "] " ++ f.message
  | none => f.message

end DriverFailure

/-- Why a configuration cannot be used. -/
inductive ConfigError where
  | invalidDocument
  | invalidInstance (name : String)
  | unreadable (path reason : String)
  | notFound (name : String)
  | noDriver (name : String)
  | unknownDriver (name driver : String)
  /-- A cause of an application's own. -/
  | custom (message : String)
  deriving DecidableEq

namespace ConfigError

def text : ConfigError → String
  | .invalidDocument => "Invalid database configuration: not a TOML document"
  | .invalidInstance name =>
    "Invalid configuration for instance \"" ++ name ++ "\": a key has a value of the wrong type"
  | .unreadable path reason => "Unable to read database configuration " ++ path ++ ": " ++ reason
  | .notFound name => "Database configuration with name \"" ++ name ++ "\" not found."
  | .noDriver name =>
    "Database configuration with name \"" ++ name ++ "\" has no driver property."
  | .unknownDriver name driver =>
    "Database configuration with name \"" ++ name ++ "\" requires an unknown driver \"" ++ driver
      ++ "\"."
  | .custom message => message

end ConfigError

/-- What an operation can hand back. -/
inductive Product where
  | sqlText
  | rows
  | singleRow
  | row
  | value
  | objects
  | statement
  | affected
  deriving DecidableEq, Repr

def Product.text : Product → String
  | .sqlText => "SQL text"
  | .rows => "rows"
  | .singleRow => "a single row"
  | .row => "a row"
  | .value => "a value"
  | .objects => "objects"
  | .statement => "a statement"
  | .affected => "an affected row count"

/-- The two kinds of condition groups. -/
inductive Connective where
  | or
  | and
  deriving DecidableEq, Repr

def Connective.text : Connective → String
  | .or => "OR"
  | .and => "AND"

/-- Why a query cannot be built, or a session cannot do what it is asked. -/
inductive BuildError where
  | emptyTable
  | noField
  | assignmentsInSelect
  | rowsInUpdate
  | listInInsert
  | unevenRow (index : Nat)
  | emptyGroup (connective : Connective)
  | blankIdentifier
  | notACondition (json : String)
  | emptyConditionList
  | tooManyArguments (count : Nat)
  | identifierNotText (json : String)
  | escapeNotBool (json : String)
  | operatorNotText (json : String)
  | invalidConditionJson
  | notASingleTerm
  | notAConditionList
  | unexpectedOutput (wanted got : Product)
  | unexpectedResult (wanted : Product) (got : String)
  | notConnected (instanceName : String)
  | transactionOpen (instanceName : String)
  | noTransaction (instanceName : String)
  | cannotBuild (entity reason : String)
  /-- A cause of an application's own. -/
  | custom (message : String)
  deriving DecidableEq

namespace BuildError

def text : BuildError → String
  | .emptyTable => "Empty table option"
  | .noField => "No field"
  | .assignmentsInSelect => "Column assignments cannot be used as a select field list"
  | .rowsInUpdate => "Bulk rows cannot be used as an update field list"
  | .listInInsert => "Insert needs column values, not a field list"
  | .unevenRow index =>
    "Insert row " ++ Decimal.ofNat index ++ " does not have the same columns as the first row"
  | .emptyGroup connective => "Empty " ++ connective.text ++ " condition group"
  | .blankIdentifier => "Condition identifier is empty"
  | .notACondition json => "A condition must be a string or a list, got " ++ json
  | .emptyConditionList => "Empty condition list"
  | .tooManyArguments count =>
    "A condition takes at most 4 arguments, got " ++ Decimal.ofNat count
  | .identifierNotText json => "Condition identifier must be a string, got " ++ json
  | .escapeNotBool json => "Condition escape flag must be a boolean, got " ++ json
  | .operatorNotText json => "Condition operator must be a string, got " ++ json
  | .invalidConditionJson => "Invalid condition JSON: not a JSON text"
  | .notASingleTerm => "Expected a single condition term"
  | .notAConditionList => "Expected a condition list"
  | .unexpectedOutput wanted got =>
    "Expected " ++ wanted.text ++ " but the query produced " ++ got.text
  | .unexpectedResult wanted got =>
    "Expected " ++ wanted.text ++ " from raw query, got " ++ got
  | .notConnected name => "Instance \"" ++ name ++ "\" has no open connection"
  | .transactionOpen name => "A transaction is already open on instance \"" ++ name ++ "\""
  | .noTransaction name => "No open transaction on instance \"" ++ name ++ "\""
  | .cannotBuild entity reason => "Cannot build " ++ entity ++ " from row: " ++ reason
  | .custom message => message

end BuildError

inductive SqlError where
  | configuration (cause : ConfigError)
  | queryBuild (cause : BuildError)
  /-- A native failure during `action`, with the failure's text and the text of its source.  There
  is no category only when the SQLSTATE has no class. -/
  | driverExecution (message action : String) (category : Option Category) (source : String)
  deriving DecidableEq

namespace SqlError

/-- A native failure together with what was being done, usually the query text. -/
def ofFailure (f : DriverFailure) (action : String) : SqlError :=
  .driverExecution f.text action f.category? f.source

def action? : SqlError → Option String
  | .driverExecution _ action _ _ => some action
  | _ => none

def category? : SqlError → Option Category
  | .driverExecution _ _ category _ => category
  | _ => none

def isConfiguration : SqlError → Bool
  | .configuration _ => true
  | _ => false

def isQueryBuild : SqlError → Bool
  | .queryBuild _ => true
  | _ => false

def isDriver : SqlError → Bool
  | .driverExecution .. => true
  | _ => false

/-- An error that nobody gets to see: the program panics while making it. -/
def isPanic : SqlError → Bool
  | .driverExecution _ _ none _ => true
  | _ => false

def message : SqlError → String
  | .configuration cause => "configuration error: " ++ cause.text
  | .queryBuild cause => "query build error: " ++ cause.text
  | .driverExecution message action category _ =>
    (category.getD .unknown).text ++ ": " ++ message ++ " (while " ++ action ++ ")"

end SqlError

end SqlGateway
