import SqlGateway.Keyed
import SqlGateway.Toml.Datetime

/-!
# TOML values

The entries of a table are in the order of their keys, one entry a key.
-/

namespace SqlGateway

inductive Toml where
  | string (s : String)
  | int (i : Int)
  | float (x : Float)
  | bool (b : Bool)
  | datetime (t : Toml.Datetime)
  | array (items : List Toml)
  | table (entries : List (String × Toml))

namespace Toml

def isTable : Toml → Bool
  | .table _ => true
  | _ => false

end Toml

end SqlGateway
