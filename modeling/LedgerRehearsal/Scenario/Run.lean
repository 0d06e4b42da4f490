import LedgerRehearsal.Monitor
import LedgerRehearsal.Scenario.Plan

/-!
Running a scenario against a database: the prepare transaction with the root key, the queries that
must find something, those that must find nothing, the transactions that must be carried out, those
that must be refused, and the cleanup. The first entry that does not behave ends the run.
-/

namespace LedgerRehearsal

open Json

/-- How many entries of each phase were run. -/
structure ScenarioReport where
  scenario : String
  yes : Nat
  no : Nat
  tyes : Nat
  tno : Nat
deriving DecidableEq, Repr

/-- The database of a scenario, its root key, and how transactions are monitored. -/
structure ScenarioStage where
  database : DatabaseId
  rootKey : Key
  monitor : Monitor
deriving DecidableEq, Repr

namespace ScenarioStage

abbrev Step := Attempt ScenarioError Unit

def connection (stage : ScenarioStage) (key : Key) : Connection := ⟨stage.database, key⟩

def rootConnection (stage : ScenarioStage) : Connection := stage.connection stage.rootKey

/-- Reports an error and ends with it. -/
def failWith (message : String) (fields : List (String × String)) (error : ScenarioError) : Step := do
  ExceptT.lift (Run.note .error message fields)
  throw error

/-- Submits a transaction with a connection and waits; the reason for which it failed, if it did. -/
def submitAndWait (markers : List String) (connection : Connection) (transaction : Value) :
    Run (Option String) := do
  match ← Run.ask (.submitAndWait connection transaction) with
  | .error error => return some error.message
  | .ok record => return errorMarker markers record

/-- A transaction of the root key. -/
def runPrivileged (stage : ScenarioStage) (phase : Phase) (transaction : Transaction) : Step := do
  let value := transaction.toValue
  let fail (reason : String) : Step :=
    failWith "Privileged transaction failed"
      [("phase", phase.label), ("reason", reason), ("transaction", value.canonicalText)]
      (.privilegedTransactionFailed phase reason value.canonicalText)
  match ← ExceptT.lift (Run.ask (.connect stage.rootConnection)) with
  | .error error => fail error.message
  | .ok _ =>
    match ← ExceptT.lift (submitAndWait stage.monitor.markers stage.rootConnection value) with
    | some reason => fail reason
    | none =>
      ExceptT.lift <| Run.note .debug "Privileged transaction committed"
        [("phase", phase.label), ("operations", toString transaction.length)]

/-- The answer to a query of a key. -/
def queryAs (stage : ScenarioStage) (key : Key) (query : Value) : Attempt LedgerError (List Value) := do
  Attempt.ask (.connect (stage.connection key))
  Attempt.ask (.query (stage.connection key) query)

/-- A query that has to find something. -/
def expectResults (stage : ScenarioStage) (key : Key) (query : Value) : Step := do
  let phase : Phase := .yesQuery
  match ← ExceptT.lift (ExceptT.run (stage.queryAs key query)) with
  | .error error =>
    failWith "Query failed"
      [("phase", phase.label), ("identity", key.account), ("error", error.message),
        ("query", query.canonicalText)]
      (.transport phase error.message query.canonicalText)
  | .ok [] =>
    failWith "Query returned no results"
      [("phase", phase.label), ("identity", key.account), ("query", query.canonicalText)]
      (.emptyQueryResult phase query.canonicalText)
  | .ok (_ :: _) => return ()

/-- A query that has to find nothing; one that fails has found nothing. -/
def expectNoResults (stage : ScenarioStage) (key : Key) (query : Value) : Step := do
  let phase : Phase := .noQuery
  match ← ExceptT.lift (ExceptT.run (stage.queryAs key query)) with
  | .error error =>
    ExceptT.lift <| Run.note .warn "Query failed; treating as no results"
      [("phase", phase.label), ("identity", key.account), ("error", error.message)]
  | .ok [] => return ()
  | .ok rows =>
    failWith "Query returned results but none were expected"
      [("phase", phase.label), ("identity", key.account), ("count", toString rows.length),
        ("query", query.canonicalText)]
      (.unexpectedQueryResult phase rows.length query.canonicalText)

/-- A monitored transaction of a key. -/
def runScoped (stage : ScenarioStage) (phase : Phase) (key : Key) (transaction : Transaction) : Step := do
  let value := transaction.toValue
  let trial : Trial := ⟨stage.rootConnection, stage.connection key, value, phase.expectsSuccess⟩
  let opened ← ExceptT.lift <| ExceptT.run do
    Attempt.ask (.connect trial.privileged)
    Attempt.ask (.connect trial.submitter)
  match opened with
  | .error error =>
    failWith "Could not open connection"
      [("phase", phase.label), ("identity", key.account), ("error", error.message)]
      (.transport phase error.message value.canonicalText)
  | .ok _ =>
    let outcome ← (ExceptT.mk (stage.monitor.check trial) : Attempt ScenarioError Outcome)
    ExceptT.lift <| Run.note .debug "Transaction checked"
      [("phase", phase.label), ("identity", key.account), ("outcome", outcome.inspection.text)]

/-- Runs the phases of a plan in order. The keys and the entries of a phase go in pairs. -/
def run (stage : ScenarioStage) (plan : ScenarioPlan) : Attempt ScenarioError ScenarioReport := do
  ExceptT.lift <| Run.note .info "Running scenario"
    [("scenario", plan.name), ("database", stage.database.text)]
  plan.prepare.forM (stage.runPrivileged .prepare)
  (plan.roles.yes.zip plan.yes).forM fun (key, query) => stage.expectResults key query
  (plan.roles.no.zip plan.no).forM fun (key, query) => stage.expectNoResults key query
  (plan.roles.tyes.zip plan.tyes).forM fun (key, entry) => stage.runScoped .yesTransaction key entry
  (plan.roles.tno.zip plan.tno).forM fun (key, entry) => stage.runScoped .noTransaction key entry
  plan.clean.forM (stage.runPrivileged .cleanup)
  ExceptT.lift (Run.note .info "Scenario passed" [("scenario", plan.name)])
  return ⟨plan.name, plan.yes.length, plan.no.length, plan.tyes.length, plan.tno.length⟩

end ScenarioStage

end LedgerRehearsal
