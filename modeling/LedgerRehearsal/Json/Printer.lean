import LedgerRehearsal.Json.Number

/-!
The two layouts of a JSON value. The compact one has no blanks. The spread one gives each item and
each member a line of its own, indented by two spaces a level; an empty container stays on one line
in both.
-/

namespace LedgerRehearsal.Json

def hexDigit (n : Nat) : Char := Char.ofNat (if n < 10 then 48 + n else 87 + n)

/-- What stands for a character between the quotes of a string. -/
def escape (c : Char) : List Char :=
  if c = '"' then ['\\', '"']
  else if c = '\\' then ['\\', '\\']
  else if c = '\n' then ['\\', 'n']
  else if c = '\r' then ['\\', 'r']
  else if c = '\t' then ['\\', 't']
  else if c = '\x08' then ['\\', 'b']
  else if c = '\x0c' then ['\\', 'f']
  else if c.toNat < 0x20 then ['\\', 'u', '0', '0', hexDigit (c.toNat / 16), hexDigit (c.toNat % 16)]
  else [c]

def escaped (text : List Char) : List Char := text.flatMap escape

def quote (text : List Char) : List Char := '"' :: escaped text ++ ['"']

/-- A text as a JSON string literal. -/
def literal (text : String) : String := String.ofList (quote text.toList)

mutual

def writeCompact : Value → List Char
  | .null => ['n', 'u', 'l', 'l']
  | .bool true => ['t', 'r', 'u', 'e']
  | .bool false => ['f', 'a', 'l', 's', 'e']
  | .number n => n.text
  | .string s => quote s.toList
  | .list items => '[' :: writeItems items ++ [']']
  | .object members => '{' :: writeMembers members ++ ['}']

/-- The items of a list, separated by commas. -/
def writeItems : List Value → List Char
  | [] => []
  | [item] => writeCompact item
  | item :: next :: rest => writeCompact item ++ ',' :: writeItems (next :: rest)

/-- The members of an object, separated by commas. -/
def writeMembers : List (String × Value) → List Char
  | [] => []
  | [(key, value)] => quote key.toList ++ ':' :: writeCompact value
  | (key, value) :: next :: rest =>
    quote key.toList ++ ':' :: writeCompact value ++ ',' :: writeMembers (next :: rest)

end

/-- A line break followed by the blanks of an indentation level. -/
def newline (level : Nat) : List Char := '\n' :: List.replicate (2 * level) ' '

mutual

def writeSpread (level : Nat) : Value → List Char
  | .list [] => ['[', ']']
  | .list (item :: rest) =>
    '[' :: writeLines (level + 1) (item :: rest) ++ newline level ++ [']']
  | .object [] => ['{', '}']
  | .object (member :: rest) =>
    '{' :: writeFields (level + 1) (member :: rest) ++ newline level ++ ['}']
  | .null => writeCompact .null
  | .bool b => writeCompact (.bool b)
  | .number n => writeCompact (.number n)
  | .string s => writeCompact (.string s)

/-- The items of a list, each on a line at the given level. -/
def writeLines (level : Nat) : List Value → List Char
  | [] => []
  | [item] => newline level ++ writeSpread level item
  | item :: next :: rest =>
    newline level ++ writeSpread level item ++ ',' :: writeLines level (next :: rest)

/-- The members of an object, each on a line at the given level. -/
def writeFields (level : Nat) : List (String × Value) → List Char
  | [] => []
  | [(key, value)] => newline level ++ quote key.toList ++ ':' :: ' ' :: writeSpread level value
  | (key, value) :: next :: rest =>
    newline level ++ quote key.toList ++ ':' :: ' ' :: writeSpread level value ++
      ',' :: writeFields level (next :: rest)

end

namespace Value

/-- The compact text of a value: the text that is hashed, compiled and reported. -/
def compact (value : Value) : String := String.ofList (writeCompact value)

/-- The spread text of a value, without a final line break. -/
def pretty (value : Value) : String := String.ofList (writeSpread 0 value)

end Value

end LedgerRehearsal.Json
