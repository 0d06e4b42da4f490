import LedgerRehearsal.Toml.Number
import LedgerRehearsal.Toml.Table
import LedgerRehearsal.Toml.Text

/-!
Reading a TOML document. It is a list of lines: the header of a table, the header of an item of an
array of tables, or a key with its value. Arrays run over several lines and may end in a comma, an
inline table stands on one line and may not. Containers nest less than 80 deep, and a key has less
than 80 parts.
-/

namespace LedgerRehearsal.Toml

open Json (Reader)

/-- Containers and the parts of a key stay below this number. -/
def depthLimit : Nat := 80

def isKeyChar (c : Char) : Bool := c.isAlphanum || c = '-' || c = '_'

/-- One part of a key, bare or quoted. -/
def readKeyPart : Reader String := fun cs =>
  match cs with
  | '"' :: _ | '\'' :: _ => readShortString cs
  | _ =>
    let bare := cs.takeWhile isKeyChar
    if bare.isEmpty then none else some (String.ofList bare, cs.drop bare.length)

/-- The parts of a key with dots between them; blanks around a part are left out. -/
def readKeyParts : (fuel : Nat) → Reader (List String)
  | 0, _ => none
  | fuel + 1, cs => do
    let (part, cs) ← readKeyPart (skipBlanks cs)
    match skipBlanks cs with
    | '.' :: cs => (readKeyParts fuel cs).map fun (parts, rest) => (part :: parts, rest)
    | cs => some ([part], cs)

def readKey : Reader (List String) := fun cs => do
  let (parts, rest) ← readKeyParts (cs.length + 1) cs
  if parts.length < depthLimit then some (parts, rest) else none

/-- The items of an array up to its closing bracket. -/
def readItems (item : Reader Value) : (fuel : Nat) → Reader (List Value)
  | 0, _ => none
  | fuel + 1, cs =>
    match skipFiller cs with
    | ']' :: rest => some ([], rest)
    | cs => do
      let (value, cs) ← item cs
      match skipFiller cs with
      | ',' :: cs => (readItems item fuel cs).map fun (values, rest) => (value :: values, rest)
      | ']' :: rest => some ([value], rest)
      | _ => none

/-- A key with its value. -/
def readAssignment (item : Reader Value) : Reader (List String × Value) := fun cs => do
  let (key, cs) ← readKey cs
  match cs with
  | '=' :: cs => (item (skipBlanks cs)).map fun (value, rest) => ((key, value), rest)
  | _ => none

/-- The assignments of an inline table up to its closing brace, of which there is at least one. -/
def readAssignments (item : Reader Value) : (fuel : Nat) → Reader (List (List String × Value))
  | 0, _ => none
  | fuel + 1, cs => do
    let (assignment, cs) ← readAssignment item cs
    match skipBlanks cs with
    | ',' :: cs => (readAssignments item fuel cs).map fun (others, rest) => (assignment :: others, rest)
    | '\x7d' :: rest => some ([assignment], rest)
    | _ => none

def readInlineTable (item : Reader Value) : Reader Value := fun cs =>
  match skipBlanks cs with
  | '\x7d' :: rest => some (.table [], rest)
  | cs => do
    let (assignments, rest) ← readAssignments item (cs.length + 1) cs
    let table ← Table.ofAssignments assignments
    some (.table table.toValues, rest)

/-- A value in which containers nest at most `depth` deep. -/
def readValue : (depth : Nat) → Reader Value
  | _, 't' :: 'r' :: 'u' :: 'e' :: rest => some (.boolean true, rest)
  | _, 'f' :: 'a' :: 'l' :: 's' :: 'e' :: rest => some (.boolean false, rest)
  | 0, '[' :: _ | 0, '\x7b' :: _ => none
  | depth + 1, '[' :: cs =>
    (readItems (readValue depth) (cs.length + 1) cs).map fun (items, rest) => (.array items, rest)
  | depth + 1, '\x7b' :: cs => readInlineTable (readValue depth) cs
  | _, cs =>
    match cs with
    | '"' :: _ | '\'' :: _ => (readString cs).map fun (text, rest) => (.string text, rest)
    | cs => readNumber cs

/-- One line of a document. -/
inductive Line where
  | header (path : List String)
  /-- The header of the next item of an array of tables. -/
  | itemHeader (path : List String)
  | assignment (key : List String) (value : Value)

def readLine : Reader Line
  | '[' :: '[' :: cs => do
    let (path, cs) ← readKey cs
    match cs with
    | ']' :: ']' :: rest => some (.itemHeader path, rest)
    | _ => none
  | '[' :: cs => do
    let (path, cs) ← readKey cs
    match cs with
    | ']' :: rest => some (.header path, rest)
    | _ => none
  | cs => (readAssignment (readValue (depthLimit - 1)) cs).map fun ((key, value), rest) =>
    (.assignment key value, rest)

def readLines : (fuel : Nat) → List Char → Option (List Line)
  | 0, _ => none
  | fuel + 1, cs =>
    match skipFiller cs with
    | [] => some []
    | '#' :: cs => if (endLine ('#' :: cs)) = some [] then some [] else none
    | cs => do
      let (line, cs) ← readLine cs
      let cs ← endLine cs
      (readLines fuel cs).map (line :: ·)

/-- Adds a line to the document read so far, with the path of the table that it adds to. -/
def Document.add (document : List String × Table) : Line → Option (List String × Table)
  | .header path => (document.2.openTable path).map fun table => (path, table)
  | .itemHeader path => (document.2.openItem path).map fun table => (path, table)
  | .assignment key value =>
    (document.2.update document.1 fun table => table.assign key value).map fun table => (document.1, table)

/-- The table that a text stands for. A byte order mark may come first. -/
def parse (text : String) : Option (List (String × Value)) := do
  let cs := match text.toList with
    | '\uFEFF' :: cs => cs
    | cs => cs
  let lines ← readLines (cs.length + 1) cs
  let (_, table) ← lines.foldlM Document.add ([], .empty)
  some table.toValues

end LedgerRehearsal.Toml
