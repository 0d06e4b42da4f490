import LedgerRehearsal.Expansion
import LedgerRehearsal.Sha256

/-!
Artifacts: what a stage contributes to the schema. The operations of a stage stand in
`<stage>.json`, taken as they are, or else in `<stage>/main.json`, which is expanded with the
directory of the stage as component directory. The flat list of all operations in stage order is
the document that is deployed; the digest is that of its compact text.
-/

namespace LedgerRehearsal

open Json

variable [Diagnostics]

/-- The file with the template operations of a stage. -/
def mainFile : String := "main.json"

structure Artifact where
  stage : String
  operations : Transaction
deriving DecidableEq

namespace Artifact

def toValue (artifact : Artifact) : Value := Transaction.toValue artifact.operations

/-- The document in a file of the source tree. -/
def readDocument (files : Files) (path : Path) : Except TemplateError Value :=
  match files.read path with
  | .error error => .error (.resolution path error.reason)
  | .ok text =>
    match parse text with
    | some document => .ok document
    | none => .error (.resolution path s!"malformed document: {Diagnostics.json text}")

def assembleStage (files : Files) (root : Path) (stage : String) : Except TemplateError Artifact := do
  let verbatim := root.join (stage ++ ".json")
  if files.isFile verbatim then
    let document ← readDocument files verbatim
    let operations ← Transaction.ofValue document
    .ok ⟨stage, operations⟩
  else
    let dir := root.join stage
    let main := dir.join mainFile
    if files.isFile main then
      let document ← readDocument files main
      let templates ← Transaction.ofValue document
      let operations ← templates.expand files dir
      .ok ⟨stage, operations⟩
    else
      .error (.resolution main s!"neither {stage}.json nor {stage}/{mainFile} exists")

/-- The artifacts of the stages in order; the first stage that fails decides the error. -/
def assemble (files : Files) (root : Path) (stages : List String) :
    Except TemplateError (List Artifact) :=
  stages.mapM (assembleStage files root)

/-- What is reported of a stage, as far as it is assembled. -/
def stageNotices (files : Files) (root : Path) (stage : String) : List Notice :=
  let verbatim := root.join (stage ++ ".json")
  if files.isFile verbatim then
    [⟨.debug, "Using no-expand stage file", [("stage", stage), ("path", verbatim.text)]⟩]
  else
    let dir := root.join stage
    let main := dir.join mainFile
    if files.isFile main then
      match readDocument files main >>= Transaction.ofValue with
      | .error _ => []
      | .ok templates =>
        templates.notices files dir ++
          match templates.expand files dir with
          | .error _ => []
          | .ok operations =>
            [⟨.debug, "Expanded stage templates",
              [("stage", stage), ("operations", toString operations.length)]⟩]
    else []

/-- What is reported of the stages in order, up to the first one that fails. -/
def notices (files : Files) (root : Path) (stages : List String) : List Notice :=
  Notice.untilFailure (stages.map fun stage =>
    (stageNotices files root stage, (assembleStage files root stage).toBool))

/-- All operations in stage order. -/
def flatten (artifacts : List Artifact) : Transaction := artifacts.flatMap (·.operations)

/-- The document that is deployed. -/
def document (artifacts : List Artifact) : Value := Transaction.toValue (flatten artifacts)

def render (artifacts : List Artifact) : String := (document artifacts).canonicalPretty

/-- What the file of the artifacts holds. -/
def contents (artifacts : List Artifact) : String := render artifacts ++ "\n"

/-- The digest of the compact text of the document, in hexadecimal. -/
def digest (artifacts : List Artifact) : String := Sha256.hex (document artifacts).canonicalText

end Artifact

end LedgerRehearsal
