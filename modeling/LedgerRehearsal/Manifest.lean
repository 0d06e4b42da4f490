import LedgerRehearsal.Diagnostics
import LedgerRehearsal.Failure
import LedgerRehearsal.Files.Tree
import LedgerRehearsal.Json.Reader
import LedgerRehearsal.Json.Shape

/-!
Manifests of a source tree. `build.json` at its root names the stages of each build target,
`test.json` in the directory of a stage names its scenarios. Stages and scenarios are single
directory names, so no manifest leads out of the tree.
-/

namespace LedgerRehearsal

open Json

variable [Diagnostics]

def buildFile : String := "build.json"
def scenarioFile : String := "test.json"

/-- The JSON value in a file. -/
def readJson (files : Files) (path : Path) : Except SettingsError Value :=
  match files.read path with
  | .error error => .error (.unreadable path error.reason)
  | .ok text =>
    match parse text with
    | some value => .ok value
    | none => .error (.malformed path (Diagnostics.json text))

/-- The JSON value in a file that may be absent. -/
def readOptionalJson (files : Files) (path : Path) : Except SettingsError (Option Value) :=
  if files.exists? path then (readJson files path).map some else .ok none

/-- The name of an entry of a directory. -/
def isDirectoryName (name : String) : Bool :=
  name ≠ "" && name ≠ "." && name ≠ ".." && !name.toList.contains '/' && !name.toList.contains '\\'

def checkName (field name : String) : Except SettingsError Unit :=
  if isDirectoryName name then .ok ()
  else .error (.invalidValue field s!"'{name}' is not a valid directory name")

/-- A build target: the stages whose schema adds up in this order. -/
structure Target where
  name : String
  stages : List String
deriving DecidableEq, Repr

namespace Target

/-- The stages up to the first of a name, that one included. -/
def through (target : Target) (stage : String) : Except SettingsError Target :=
  match target.stages.idxOf? stage with
  | some position => .ok { target with stages := target.stages.take (position + 1) }
  | none => .error (.unknownStage target.name stage)

end Target

def stageDir (root : Path) (stage : String) : Path := root.join stage

/-- The targets of `build.json` in the order of their names. -/
structure BuildManifest where
  targets : List (String × List String)
deriving DecidableEq, Repr

namespace BuildManifest

def check (manifest : BuildManifest) : Except SettingsError Unit :=
  manifest.targets.forM fun (target, stages) => stages.forM (checkName s!"build target '{target}'")

def load (files : Files) (root : Path) : Except SettingsError BuildManifest := do
  let path := root.join buildFile
  let value ← readJson files path
  match Shape.map (Shape.list Shape.string) value with
  | .error reason => .error (.malformed path reason)
  | .ok targets =>
    let manifest : BuildManifest := ⟨targets⟩
    manifest.check
    .ok manifest

def target (manifest : BuildManifest) (name : String) : Except SettingsError Target :=
  match manifest.targets.lookup name with
  | some stages => .ok ⟨name, stages⟩
  | none => .error (.unknownTarget name)

end BuildManifest

/-- The scenarios of a stage in the order in which they run. A stage without a manifest has none. -/
def loadScenarioNames (files : Files) (dir : Path) : Except SettingsError (List String) := do
  let path := dir.join scenarioFile
  match ← readOptionalJson files path with
  | none => .ok []
  | some value =>
    match Shape.list Shape.string value with
    | .error reason => .error (.malformed path reason)
    | .ok names =>
      names.forM (checkName "scenario")
      .ok names

end LedgerRehearsal
