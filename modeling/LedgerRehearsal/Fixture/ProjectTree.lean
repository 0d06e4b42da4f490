import LedgerRehearsal.Fixture.Values
import LedgerRehearsal.Json.Printer
import LedgerRehearsal.Manifest
import LedgerRehearsal.Roles

/-!
Source trees for tests, built file by file below a root. Later files replace earlier ones, and JSON
is written in its spread form.
-/

namespace LedgerRehearsal.Fixture

open Json

structure ProjectTree where
  files : Files
  /-- The place of the root and the path that leads to it. -/
  place : Place
  root : Path
deriving DecidableEq, Repr

namespace ProjectTree

/-- An empty tree below the directory of the given name. -/
def empty (name : String) : ProjectTree :=
  ⟨Files.empty.makeDirectories [name], [name], ⟨"/" ++ name⟩⟩

/-- Puts a file into the tree, with the directories above it. -/
def file (tree : ProjectTree) (path text : String) : ProjectTree :=
  { tree with files := tree.files.put (tree.place ++ (Path.mk path).components) (.text text) }

def json (tree : ProjectTree) (path : String) (value : Value) : ProjectTree := tree.file path value.pretty

def build (tree : ProjectTree) (targets : Value) : ProjectTree := tree.json buildFile targets

/-- A stage of template operations. -/
def stage (tree : ProjectTree) (stage : String) (operations : Value) : ProjectTree :=
  tree.json s!"{stage}/main.json" operations

/-- A stage that is taken as it is. -/
def verbatimStage (tree : ProjectTree) (stage : String) (operations : Value) : ProjectTree :=
  tree.json s!"{stage}.json" operations

def scenarios (tree : ProjectTree) (stage : String) (names : List String) : ProjectTree :=
  tree.json s!"{stage}/{scenarioFile}" (.ofStrings names)

/-- The role table of a scenario: the given sets with the given keys. -/
def users (tree : ProjectTree) (stage scenario : String) (keys : List Key) (roles : Value) : ProjectTree :=
  let sets : Members := match roles with
    | .object members => members
    | _ => []
  tree.json s!"{stage}/{scenario}/{roleFile}"
    (.object (sets.insert "keys" (.list (keys.map Key.toValue))))

def phase (tree : ProjectTree) (stage scenario : String) (phase : Phase) (entries : Value) : ProjectTree :=
  tree.json s!"{stage}/{scenario}/{phase.file}" entries

def target (_ : ProjectTree) (name : String) (stages : List String) : Target := ⟨name, stages⟩

/-- The texts of all files by their paths below the root. -/
def texts (tree : ProjectTree) : List (String × String) :=
  tree.files.entries.filterMap fun (place, content) =>
    match content with
    | .text text => some ("/".intercalate (place.drop tree.place.length), text)
    | .binary | .closed | .special _ | .directory => none

end ProjectTree

end LedgerRehearsal.Fixture
