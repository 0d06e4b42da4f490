import LedgerRehearsal.Json.Reader

/-!
The characters of a TOML document: blanks, line ends, comments and the four kinds of strings. A
basic string stands in double quotes and has escapes, a literal string stands in single quotes and
has none; three quotes let either run over several lines, and then a line end behind the opening
quotes is left out and every line end reads as a line feed.
-/

namespace LedgerRehearsal.Toml

open Json (Reader hexValue)

def isBlank (c : Char) : Bool := c = ' ' || c = '\t'

def skipBlanks (cs : List Char) : List Char := cs.dropWhile isBlank

/-- A character that may stand in a comment: the tab, and everything that is no control. -/
def isVisible (c : Char) : Bool := c = '\t' || (' ' ≤ c && c ≠ '\x7f')

/-- What follows a line end, if one is there. -/
def lineEnd? : List Char → Option (List Char)
  | '\n' :: rest => some rest
  | '\r' :: '\n' :: rest => some rest
  | _ => none

/-- What follows a comment, or everything if there is none. -/
def skipComment : List Char → List Char
  | '#' :: rest => rest.dropWhile isVisible
  | cs => cs

/-- The rest of a line must be blank but for a comment. -/
def endLine (cs : List Char) : Option (List Char) :=
  match skipComment (skipBlanks cs) with
  | [] => some []
  | rest => lineEnd? rest

/-- Skips blanks, and lines that hold nothing but a comment. -/
def skipLines : (fuel : Nat) → List Char → List Char
  | 0, cs => cs
  | fuel + 1, cs =>
    let cs := skipBlanks cs
    match lineEnd? (skipComment cs) with
    | some rest => skipLines fuel rest
    | none => cs

/-- The blanks, comments and line ends between the items of an array. -/
def skipFiller (cs : List Char) : List Char := skipLines cs.length cs

/-- The character of a code point that is written with `count` hexadecimal digits. -/
def readCodePoint (count : Nat) : Reader Char := fun cs => do
  let digits ← (cs.take count).mapM hexValue
  let code := digits.foldl (fun n digit => n * 16 + digit) 0
  if digits.length = count ∧ code.isValidChar then some (Char.ofNat code, cs.drop count) else none

/-- The character of an escape, behind its backslash. -/
def readEscape : Reader Char
  | 'b' :: cs => some ('\x08', cs)
  | 't' :: cs => some ('\t', cs)
  | 'n' :: cs => some ('\n', cs)
  | 'f' :: cs => some ('\x0c', cs)
  | 'r' :: cs => some ('\r', cs)
  | '"' :: cs => some ('"', cs)
  | '\\' :: cs => some ('\\', cs)
  | 'u' :: cs => readCodePoint 4 cs
  | 'U' :: cs => readCodePoint 8 cs
  | _ => none

/-- The characters of a basic string up to its closing quote. -/
def readBasic : (fuel : Nat) → Reader (List Char)
  | 0, _ => none
  | fuel + 1, cs =>
    match cs with
    | [] => none
    | '"' :: rest => some ([], rest)
    | '\\' :: rest => do
      let (c, rest) ← readEscape rest
      let (text, rest) ← readBasic fuel rest
      some (c :: text, rest)
    | c :: rest =>
      if isVisible c then (readBasic fuel rest).map fun (text, rest) => (c :: text, rest) else none

/-- The characters of a literal string up to its closing quote. -/
def readLiteral : Reader (List Char)
  | [] => none
  | '\'' :: rest => some ([], rest)
  | c :: rest =>
    if isVisible c then (readLiteral rest).map fun (text, rest) => (c :: text, rest) else none

/-- Three quotes or more close a string; up to two of them belong to it. Nothing if the quotes at
the front do not close it. -/
def closing? (quote : Char) (cs : List Char) : Option (List Char × List Char) :=
  let run := (cs.takeWhile (· = quote)).length
  if run < 3 then none else some (List.replicate (min run 5 - 3) quote, cs.drop (min run 5))

/-- Skips blanks and line ends. -/
def skipGap : List Char → List Char
  | '\r' :: '\n' :: rest => skipGap rest
  | c :: rest => if isBlank c || c = '\n' then skipGap rest else c :: rest
  | [] => []

/-- What follows a backslash at the end of a line: all blanks and line ends are left out. -/
def joinLine? (cs : List Char) : Option (List Char) := (lineEnd? (skipBlanks cs)).map skipGap

/-- The characters of a string of several lines; `escapes` says whether a backslash is one. -/
def readLong (quote : Char) (escapes : Bool) : (fuel : Nat) → Reader (List Char)
  | 0, _ => none
  | fuel + 1, cs =>
    match closing? quote cs, lineEnd? cs with
    | some closed, _ => some closed
    | none, some rest => (readLong quote escapes fuel rest).map fun (text, rest) => ('\n' :: text, rest)
    | none, none =>
      match cs with
      | [] => none
      | c :: rest =>
        if escapes ∧ c = '\\' then
          match joinLine? rest with
          | some rest => readLong quote escapes fuel rest
          | none => do
            let (c, rest) ← readEscape rest
            let (text, rest) ← readLong quote escapes fuel rest
            some (c :: text, rest)
        else if isVisible c then
          (readLong quote escapes fuel rest).map fun (text, rest) => (c :: text, rest)
        else none

/-- A string of several lines behind its opening quotes. -/
def readLongText (quote : Char) (escapes : Bool) (cs : List Char) : Option (List Char × List Char) :=
  let cs := (lineEnd? cs).getD cs
  readLong quote escapes (cs.length + 1) cs

/-- A string on one line. -/
def readShortString : Reader String
  | '"' :: cs => (readBasic (cs.length + 1) cs).map fun (text, rest) => (String.ofList text, rest)
  | '\'' :: cs => (readLiteral cs).map fun (text, rest) => (String.ofList text, rest)
  | _ => none

/-- A string of any kind. -/
def readString : Reader String
  | '"' :: '"' :: '"' :: cs => (readLongText '"' true cs).map fun (text, rest) => (String.ofList text, rest)
  | '\'' :: '\'' :: '\'' :: cs =>
    (readLongText '\'' false cs).map fun (text, rest) => (String.ofList text, rest)
  | cs => readShortString cs

end LedgerRehearsal.Toml
