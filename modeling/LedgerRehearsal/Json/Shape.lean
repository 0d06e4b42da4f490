import LedgerRehearsal.Json.Number
import LedgerRehearsal.Text.Quoted

/-!
Reading typed data from JSON values. A value of another type than the one wanted is reported by
what it is and what was expected; in a list and in an object the first one counts.
-/

namespace LedgerRehearsal.Json

/-- What a report calls a value. -/
def Value.describe : Value → String
  | .null => "null"
  | .bool b => s!"boolean `{b}`"
  | .number (.integer n) => s!"integer `{n}`"
  | .number (.binary x) => "floating point `" ++ String.ofList (Number.binaryText x) ++ "`"
  | .string text => "string " ++ Text.quoted text
  | .list _ => "sequence"
  | .object _ => "map"

def wrongType (value : Value) (expected : String) : String :=
  s!"invalid type: {value.describe}, expected {expected}"

def wrongLength (length : Nat) (expected : String) : String :=
  s!"invalid length {length}, expected {expected}"

namespace Shape

def string : Value → Except String String
  | .string text => .ok text
  | other => .error (wrongType other "a string")

def list {α : Type} (item : Value → Except String α) : Value → Except String (List α)
  | .list items => items.mapM item
  | other => .error (wrongType other "a sequence")

/-- The members of an object in the order of their keys. -/
def map {α : Type} (item : Value → Except String α) : Value → Except String (List (String × α))
  | .object members => members.mapM fun (key, value) => (item value).map fun item => (key, item)
  | other => .error (wrongType other "a map")

end Shape

end LedgerRehearsal.Json
