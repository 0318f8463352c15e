/-!
# TOML values

A parsed TOML document is a table of values. Integers are 64-bit signed; floats and date-times
are kept as written, since nothing here computes with them.

* `Value.get` : the value under a key of a table (nothing for any other value).
-/

namespace Stimulator.Toml

/-- A TOML value. -/
inductive Value where
  | string (s : String)
  | integer (n : Int)
  /-- A float, as written. -/
  | float (text : String)
  | boolean (b : Bool)
  /-- A date, a time or a date-time, as written. -/
  | datetime (text : String)
  | array (items : List Value)
  | table (entries : List (String × Value))
  deriving Inhabited

namespace Value

/-- The value under `key` when `v` is a table. -/
def get (v : Value) (key : String) : Option Value :=
  match v with
  | .table entries => entries.lookup key
  | _ => none

/-- Whether `v` is a table. -/
def isTable : Value → Bool
  | .table _ => true
  | _ => false

end Value

end Stimulator.Toml
