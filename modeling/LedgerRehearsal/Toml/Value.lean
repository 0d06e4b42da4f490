/-!
TOML values. Settings hold no floating point numbers and no dates, so those are kept as they are
written.
-/

namespace LedgerRehearsal.Toml

inductive Value where
  | string (text : String)
  /-- An integer of 64 bits with a sign. -/
  | integer (value : Int)
  | float (literal : String)
  | boolean (value : Bool)
  /-- A date, a time of day, or both. -/
  | moment (literal : String)
  | array (items : List Value)
  | table (members : List (String × Value))

end LedgerRehearsal.Toml
