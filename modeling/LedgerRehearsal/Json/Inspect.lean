import LedgerRehearsal.Json.Number
import LedgerRehearsal.Text.Quoted

/-!
JSON values as people look at them: the kind of each value by its name, texts quoted.
-/

namespace LedgerRehearsal.Json

mutual

def inspectValue : Value → String
  | .null => "Null"
  | .bool value => "Bool(" ++ toString value ++ ")"
  | .number n => "Number(" ++ String.ofList n.text ++ ")"
  | .string text => "String(" ++ Text.quoted text ++ ")"
  | .list items => "Array [" ++ inspectItems items ++ "]"
  | .object members => "Object \x7b" ++ inspectMembers members ++ "\x7d"

/-- The items of a list, separated by commas. -/
def inspectItems : List Value → String
  | [] => ""
  | [item] => inspectValue item
  | item :: next :: rest => inspectValue item ++ ", " ++ inspectItems (next :: rest)

/-- The members of an object, separated by commas. -/
def inspectMembers : List (String × Value) → String
  | [] => ""
  | [(key, value)] => Text.quoted key ++ ": " ++ inspectValue value
  | (key, value) :: next :: rest =>
    Text.quoted key ++ ": " ++ inspectValue value ++ ", " ++ inspectMembers (next :: rest)

end

namespace Value

def inspect (value : Value) : String := inspectValue value

end Value

end LedgerRehearsal.Json
