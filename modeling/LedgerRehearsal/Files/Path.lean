/-!
Paths as text. Joining only looks at the text: nothing is resolved, doubled slashes and dots stay
as they are written. The components of a path are the parts between slashes, where empty parts and
single dots are left out.
-/

namespace LedgerRehearsal

structure Path where
  text : String
deriving DecidableEq, Repr

namespace Path

/-- The parts between slashes, empty ones included. -/
def split : List Char → List (List Char)
  | [] => [[]]
  | c :: rest =>
    if c = '/' then [] :: split rest
    else match split rest with
      | [] => [[c]]
      | part :: parts => (c :: part) :: parts

/-- The parts that name something: neither empty nor a single dot. -/
def components (path : Path) : List String :=
  ((split path.text.toList).filter fun part => part ≠ [] ∧ part ≠ ['.']).map String.ofList

def isAbsolute (path : Path) : Bool := path.text.toList.head? = some '/'

/-- A name under a directory. An absolute name stands for itself; a slash is put between the two
unless the directory is empty or ends in one. -/
def join (dir : Path) (name : String) : Path :=
  if name.toList.head? = some '/' then ⟨name⟩
  else if dir.text.isEmpty ∨ dir.text.toList.getLast? = some '/' then ⟨dir.text ++ name⟩
  else ⟨dir.text ++ "/" ++ name⟩

/-- The last component, unless the path ends in two dots or has no component. -/
def fileName? (path : Path) : Option String :=
  match path.components.getLast? with
  | some ".." => none
  | name => name

/-- What follows the last dot of the file name. A name whose only dot comes first has no
extension. -/
def extension? (path : Path) : Option String := do
  let name ← path.fileName?
  let (after, before) := name.toList.reverse.span (· ≠ '.')
  match before with
  | [] | [_] => none
  | _ => some (String.ofList after.reverse)

/-- Takes away, from the end of a reversed text, slashes and single dots behind a slash. -/
def trimEnd : List Char → List Char
  | '/' :: rest => if rest.isEmpty then ['/'] else trimEnd rest
  | '.' :: '/' :: rest => trimEnd ('/' :: rest)
  | reversed => reversed

/-- The path without its last component; the empty path and the root have none to take. -/
def parent? (path : Path) : Option Path :=
  match trimEnd path.text.toList.reverse with
  | [] | ['/'] => none
  | reversed => some ⟨String.ofList (trimEnd (reversed.dropWhile (· ≠ '/'))).reverse⟩

end Path

end LedgerRehearsal
