import LedgerRehearsal.Json.Number

/-!
Reading JSON text. A reader takes the characters that are left and gives a result with the
characters behind it. Blanks are the space, the tab, the carriage return and the line feed;
containers nest at most 127 deep; nothing but blanks may follow the value. A text that is refused
is refused without a reason.
-/

namespace LedgerRehearsal.Json

/-- How deep lists and objects may nest. -/
def maxDepth : Nat := 127

abbrev Reader (α : Type) := List Char → Option (α × List Char)

def isSpace (c : Char) : Bool := c = ' ' || c = '\t' || c = '\n' || c = '\r'

def skipSpace (cs : List Char) : List Char := cs.dropWhile isSpace

/-- Splits off the decimal digits at the front. -/
def spanDigits (cs : List Char) : List Char × List Char :=
  (cs.takeWhile Char.isDigit, cs.dropWhile Char.isDigit)

/-- Splits off at least one decimal digit. -/
def readDigits : Reader (List Char) := fun cs =>
  match spanDigits cs with
  | ([], _) => none
  | (ds, rest) => some (ds, rest)

/-- The digits before the point: a single zero, or digits that do not start with one. -/
def readWhole : Reader (List Char) := fun cs =>
  match readDigits cs with
  | some ('0' :: _ :: _, _) => none
  | whole => whole

def readFraction : Reader (Option (List Char))
  | '.' :: cs => (readDigits cs).map fun (ds, rest) => (some ds, rest)
  | cs => some (none, cs)

/-- The exponent behind its mark. -/
def readPower : Reader Int
  | '-' :: cs => (readDigits cs).map fun (ds, rest) => (-(valueOf ds : Int), rest)
  | '+' :: cs => (readDigits cs).map fun (ds, rest) => ((valueOf ds : Int), rest)
  | cs => (readDigits cs).map fun (ds, rest) => ((valueOf ds : Int), rest)

def readExponent : Reader (Option Int)
  | 'e' :: cs | 'E' :: cs => (readPower cs).map fun (power, rest) => (some power, rest)
  | cs => some (none, cs)

def readSign : List Char → Bool × List Char
  | '-' :: cs => (true, cs)
  | cs => (false, cs)

def readNumber : Reader Number := fun cs => do
  let (negative, cs) := readSign cs
  let (whole, cs) ← readWhole cs
  let (fraction, cs) ← readFraction cs
  let (exponent, cs) ← readExponent cs
  let number ← Number.ofParts ⟨negative, whole, fraction, exponent⟩
  some (number, cs)

def hexValue (c : Char) : Option Nat :=
  if '0' ≤ c ∧ c ≤ '9' then some (c.toNat - 48)
  else if 'a' ≤ c ∧ c ≤ 'f' then some (c.toNat - 87)
  else if 'A' ≤ c ∧ c ≤ 'F' then some (c.toNat - 55)
  else none

/-- Four hexadecimal digits. -/
def readUnit : Reader Nat
  | a :: b :: c :: d :: cs => do
    let a ← hexValue a
    let b ← hexValue b
    let c ← hexValue c
    let d ← hexValue d
    some (((a * 16 + b) * 16 + c) * 16 + d, cs)
  | _ => none

/-- The character of an escape written with hexadecimal digits. A character beyond the first plane
takes two escapes, the halves of a surrogate pair; a half alone is refused. -/
def readCodePoint : Reader Char := fun cs => do
  let (unit, cs) ← readUnit cs
  if 0xD800 ≤ unit ∧ unit < 0xDC00 then
    match cs with
    | '\\' :: 'u' :: cs => do
      let (low, cs) ← readUnit cs
      if 0xDC00 ≤ low ∧ low < 0xE000 then
        some (Char.ofNat (0x10000 + (unit - 0xD800) * 0x400 + (low - 0xDC00)), cs)
      else none
    | _ => none
  else if 0xDC00 ≤ unit ∧ unit < 0xE000 then none
  else some (Char.ofNat unit, cs)

/-- The character that a letter stands for behind a backslash. -/
def unescape : Char → Option Char
  | '"' => some '"'
  | '\\' => some '\\'
  | '/' => some '/'
  | 'b' => some '\x08'
  | 'f' => some '\x0c'
  | 'n' => some '\n'
  | 'r' => some '\r'
  | 't' => some '\t'
  | _ => none

/-- One character of a string, or the end of the string. -/
def readCharacter : Reader (Option Char)
  | '"' :: cs => some (none, cs)
  | '\\' :: 'u' :: cs => (readCodePoint cs).map fun (c, rest) => (some c, rest)
  | '\\' :: c :: cs => (unescape c).map fun c => (some c, cs)
  | '\\' :: [] => none
  | c :: cs => if c.toNat < 0x20 then none else some (some c, cs)
  | [] => none

/-- The characters of a string up to its closing quote; each step takes at least one of `fuel`
characters. -/
def readCharacters : (fuel : Nat) → Reader (List Char)
  | 0, _ => none
  | fuel + 1, cs =>
    match readCharacter cs with
    | none => none
    | some (none, rest) => some ([], rest)
    | some (some c, rest) => (readCharacters fuel rest).map fun (text, rest) => (c :: text, rest)

/-- The rest of a string behind its opening quote. -/
def readText : Reader String := fun cs =>
  (readCharacters cs.length cs).map fun (text, rest) => (String.ofList text, rest)

/-- A key with its colon. -/
def readKey : Reader String := fun cs => do
  match skipSpace cs with
  | '"' :: cs =>
    let (key, cs) ← readText cs
    match skipSpace cs with
    | ':' :: cs => some (key, cs)
    | _ => none
  | _ => none

/-- The items of a list up to its closing bracket. -/
def readItems (item : Reader Value) : (fuel : Nat) → Reader (List Value)
  | 0, _ => none
  | fuel + 1, cs => do
    let (value, cs) ← item cs
    match skipSpace cs with
    | ',' :: cs => (readItems item fuel cs).map fun (items, rest) => (value :: items, rest)
    | ']' :: cs => some ([value], cs)
    | _ => none

/-- The members of an object up to its closing brace, in the order of the text. -/
def readMembers (item : Reader Value) : (fuel : Nat) → Reader (List (String × Value))
  | 0, _ => none
  | fuel + 1, cs => do
    let (key, cs) ← readKey cs
    let (value, cs) ← item cs
    match skipSpace cs with
    | ',' :: cs => (readMembers item fuel cs).map fun (members, rest) => ((key, value) :: members, rest)
    | '}' :: cs => some ([(key, value)], cs)
    | _ => none

/-- A word of the language. -/
def readWord (word : List Char) (value : Value) : Reader Value := fun cs =>
  if word.isPrefixOf cs then some (value, cs.drop word.length) else none

/-- A value in which containers nest at most `depth` deep. -/
def readValue : (depth : Nat) → Reader Value
  | depth, cs =>
    match skipSpace cs with
    | 'n' :: cs => readWord ['u', 'l', 'l'] .null cs
    | 't' :: cs => readWord ['r', 'u', 'e'] (.bool true) cs
    | 'f' :: cs => readWord ['a', 'l', 's', 'e'] (.bool false) cs
    | '"' :: cs => (readText cs).map fun (text, rest) => (.string text, rest)
    | '[' :: cs =>
      match depth with
      | 0 => none
      | depth + 1 =>
        match skipSpace cs with
        | ']' :: cs => some (.list [], cs)
        | cs => (readItems (readValue depth) cs.length cs).map fun (items, rest) => (.list items, rest)
    | '{' :: cs =>
      match depth with
      | 0 => none
      | depth + 1 =>
        match skipSpace cs with
        | '}' :: cs => some (.object [], cs)
        | cs => (readMembers (readValue depth) cs.length cs).map fun (members, rest) =>
          (.ofMembers members, rest)
    | cs => (readNumber cs).map fun (number, rest) => (.number number, rest)

/-- The value of a whole text. -/
def parse (text : String) : Option Value :=
  match readValue maxDepth text.toList with
  | some (value, rest) => if rest.all isSpace then some value else none
  | none => none

end LedgerRehearsal.Json
