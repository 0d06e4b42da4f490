import LedgerRehearsal.Json.Printer

/-!
The canonical form of a value: every object rebuilt by inserting its members one by one, so that
the members stand in the order of their keys at every level. A value that was read is canonical
already.
-/

namespace LedgerRehearsal.Json

mutual

def canonical : Value → Value
  | .list items => .list (canonicalItems items)
  | .object members => .object (Members.ofList (canonicalMembers members))
  | .null => .null
  | .bool b => .bool b
  | .number n => .number n
  | .string s => .string s

def canonicalItems : List Value → List Value
  | [] => []
  | item :: rest => canonical item :: canonicalItems rest

def canonicalMembers : List (String × Value) → List (String × Value)
  | [] => []
  | (key, value) :: rest => (key, canonical value) :: canonicalMembers rest

end

namespace Value

/-- The compact text of the canonical form. -/
def canonicalText (value : Value) : String := (canonical value).compact

/-- The spread text of the canonical form. -/
def canonicalPretty (value : Value) : String := (canonical value).pretty

end Value

end LedgerRehearsal.Json
