import LedgerRehearsal.Artifact
import LedgerRehearsal.Manifest
import LedgerRehearsal.Scenario.Run

/-!
Rehearsing a build target. For each stage a fresh database is created, the schema of all stages up
to this one is set up in it, one transaction of the root key for each stage, and the scenarios of
the stage are run. Deploying sets up the schema of the whole target in one database. Everything is
read from the source tree before the first request, so a broken tree does not touch the ledger.
-/

namespace LedgerRehearsal

open Json

variable [Diagnostics]

/-- What a stage of a rehearsal did. -/
structure StageReport where
  stage : String
  database : DatabaseId
  scenarios : List ScenarioReport
deriving DecidableEq, Repr

/-- The source tree of a rehearsal, its target, and how to deal with the ledger. -/
structure Rehearsal where
  files : Files
  root : Path
  target : Target
  network : String
  rootKey : Key
  policy : PollPolicy
  markers : List String
deriving DecidableEq, Repr

/-- A stage with the plans of its scenarios. -/
structure StagePlan where
  stage : String
  scenarios : List ScenarioPlan
deriving DecidableEq

/-- The artifacts of a target, and what is reported about them. -/
def compileTarget (files : Files) (root : Path) (target : Target) : Attempt Failure (List Artifact) := do
  ExceptT.lift (Run.notes (Artifact.notices files root target.stages))
  match Artifact.assemble files root target.stages with
  | .ok artifacts =>
    ExceptT.lift <| Run.note .info "Assembled build target"
      [("build_target", target.name), ("stages", toString artifacts.length)]
    return artifacts
  | .error error =>
    ExceptT.lift (Run.notes error.notices)
    throw (.template error)

/-- Writes the document of a build to a file; the files after it and the digest. -/
def writeArtifact (files : Files) (path : Path) (artifacts : List Artifact) :
    Attempt Failure (Files × String) := do
  match files.write path (Artifact.contents artifacts) with
  | (.error error, _) => throw (.artifactWrite path error.reason)
  | (.ok _, files) =>
    let digest := Artifact.digest artifacts
    ExceptT.lift (Run.note .info "Wrote artifact" [("path", path.text), ("sha256", digest)])
    return (files, digest)

namespace Rehearsal

def monitor (rehearsal : Rehearsal) : Monitor := ⟨rehearsal.policy, rehearsal.markers⟩

def loadScenario (rehearsal : Rehearsal) (dir : Path) (name : String) : Attempt Failure ScenarioPlan := do
  ExceptT.lift (Run.notes (Scenario.readNotices rehearsal.files dir name))
  match Scenario.load rehearsal.files dir name with
  | .ok plan => return plan
  | .error failure =>
    ExceptT.lift <| Run.notes <|
      Scenario.loadNotices failure [("stage_dir", dir.text), ("scenario", name)]
    throw failure

def loadStage (rehearsal : Rehearsal) (stage : String) : Attempt Failure StagePlan := do
  let dir := stageDir rehearsal.root stage
  let names ← Attempt.ofExcept ((loadScenarioNames rehearsal.files dir).mapError .settings)
  let scenarios ← names.mapM (rehearsal.loadScenario dir)
  ExceptT.lift <| Run.note .debug "Loaded scenarios"
    [("stage", stage), ("scenarios", toString scenarios.length)]
  return ⟨stage, scenarios⟩

/-- Everything that a test needs from the source tree. -/
def load (rehearsal : Rehearsal) : Attempt Failure (List Artifact × List StagePlan) := do
  let artifacts ← compileTarget rehearsal.files rehearsal.root rehearsal.target
  let plans ← rehearsal.target.stages.mapM rehearsal.loadStage
  return (artifacts, plans)

/-- Submits what a stage contributes, if it contributes anything. -/
def applyArtifact (rehearsal : Rehearsal) (connection : Connection) (stage : String)
    (artifact : Artifact) : Attempt Failure Unit := do
  let place := [("stage", stage), ("source_stage", artifact.stage)]
  if artifact.operations.isEmpty then
    ExceptT.lift (Run.note .debug "Skipping empty stage transaction" place)
  else
    let payload := artifact.toValue.canonicalText
    match ← ExceptT.lift (ScenarioStage.submitAndWait rehearsal.markers connection artifact.toValue) with
    | none => ExceptT.lift (Run.note .debug "Applied stage transaction" place)
    | some reason =>
      ExceptT.lift <| Run.note .error "Schema setup failed"
        (place ++ [("reason", reason), ("transaction", payload)])
      throw (.schemaSetup stage artifact.stage reason payload)

/-- One transaction for each artifact, in order. -/
def setUpSchema (rehearsal : Rehearsal) (database : DatabaseId) (stage : String)
    (artifacts : List Artifact) : Attempt Failure Unit := do
  let connection : Connection := ⟨database, rehearsal.rootKey⟩
  Attempt.mapError .ledger (Attempt.ask (.connect connection))
  artifacts.forM (rehearsal.applyArtifact connection stage)

/-- Tests a stage, given the artifacts up to it. -/
def testStage (rehearsal : Rehearsal) (accumulated : List Artifact) (plan : StagePlan) :
    Attempt Failure StageReport := do
  let suffix ← ExceptT.lift (Run.perform .freshSuffix)
  let database := DatabaseId.make rehearsal.network s!"{plan.stage}-{suffix}"
  ExceptT.lift <| Run.note .info "Testing stage"
    [("stage", plan.stage), ("database", database.text)]
  Attempt.mapError .ledger (Attempt.ask (.createDatabase database))
  rehearsal.setUpSchema database plan.stage accumulated
  let stage : ScenarioStage := ⟨database, rehearsal.rootKey, rehearsal.monitor⟩
  let scenarios ← plan.scenarios.mapM fun scenario => Attempt.mapError .scenario (stage.run scenario)
  ExceptT.lift <| Run.note .info "Stage passed"
    [("stage", plan.stage), ("scenarios", toString scenarios.length)]
  return ⟨plan.stage, database, scenarios⟩

/-- Each stage with the artifacts up to it. -/
def steps (artifacts : List Artifact) (plans : List StagePlan) : List (List Artifact × StagePlan) :=
  plans.zipIdx.map fun (plan, position) => (artifacts.take (position + 1), plan)

/-- Tests the stages of the target in order; the first that fails ends the test. -/
def test (rehearsal : Rehearsal) : Attempt Failure (List StageReport) := do
  let (artifacts, plans) ← rehearsal.load
  Attempt.mapError .ledger (waitUntilReady rehearsal.policy)
  (steps artifacts plans).mapM fun (accumulated, plan) => rehearsal.testStage accumulated plan

/-- Sets up the schema of the target in a new database of the given name. -/
def deploy (rehearsal : Rehearsal) (name : String) : Attempt Failure StageReport := do
  let artifacts ← compileTarget rehearsal.files rehearsal.root rehearsal.target
  Attempt.mapError .ledger (waitUntilReady rehearsal.policy)
  let database := DatabaseId.make rehearsal.network name
  Attempt.mapError .ledger (Attempt.ask (.createDatabase database))
  let last := (artifacts.getLast?.map (·.stage)).getD ""
  rehearsal.setUpSchema database last artifacts
  ExceptT.lift <| Run.note .info "Deployed build target"
    [("database", database.text), ("stages", toString artifacts.length)]
  return ⟨last, database, []⟩

end Rehearsal

/-- How many scenarios a test ran. -/
def scenarioCount (reports : List StageReport) : Nat :=
  (reports.flatMap fun report => report.scenarios).length

end LedgerRehearsal
