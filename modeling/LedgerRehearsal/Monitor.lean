import LedgerRehearsal.Failure.Inspect
import LedgerRehearsal.Json.Canonical
import LedgerRehearsal.Json.Inspect
import LedgerRehearsal.Polling

/-!
Monitored transactions. A transaction is submitted with the key of a submitter, without waiting; then its
record is looked up, with the privileged key first and with that of the submitter second, until the
privileged view shows it. The verdict compares the record with the expectation:

- the view of the submitter is empty: the submitter cannot read its own transaction, which is an error only
  where success is expected;
- the record carries an error marker: an error where success is expected, a pass where it is not;
- the record is clean: the reverse of that.

A request that fails counts as a refusal.
-/

namespace LedgerRehearsal

open Json

/-- The text of the first marker that a record carries. A member that is null marks nothing. -/
def errorMarker (markers : List String) (record : Value) : Option String :=
  markers.findSome? fun key =>
    match record.member? key with
    | none | some .null => none
    | some (.string message) => some message
    | some other => some other.compact

inductive Outcome where
  | committed (tx : TxId) (record : Value)
  | rejectedAsExpected (tx : Option TxId) (reason : String)
deriving DecidableEq

/-- What a report shows of an identifier. -/
private def inspectTx (tx : TxId) : String := inspectWrapped "TxId" (Text.quoted tx)

def Outcome.inspection : Outcome → Inspection
  | committed tx record => ⟨"Committed", [("tx_id", inspectTx tx), ("record", record.inspect)]⟩
  | rejectedAsExpected tx reason =>
    ⟨"RejectedAsExpected",
      [("tx_id", (tx.map fun tx => inspectWrapped "Some" (inspectTx tx)).getD "None"),
        ("reason", Text.quoted reason)]⟩

/-- How transactions are waited for and which members of a record mark an error. -/
structure Monitor where
  policy : PollPolicy
  markers : List String
deriving DecidableEq, Repr

/-- A transaction, the key that submits it, and what must become of it. -/
structure Trial where
  privileged : Connection
  submitter : Connection
  transaction : Value
  expectSuccess : Bool
deriving DecidableEq

namespace Trial

def phase (trial : Trial) : Phase := if trial.expectSuccess then .yesTransaction else .noTransaction

def payload (trial : Trial) : String := trial.transaction.canonicalText

end Trial

abbrev Verdict := Except ScenarioError Outcome

namespace Monitor

/-- What a failed request means for a trial. -/
def onLedgerError (trial : Trial) (tx : Option TxId) (error : LedgerError) : Run Verdict := do
  if trial.expectSuccess then
    Run.note .error "Ledger error during transaction"
      [("phase", trial.phase.label), ("error", error.message), ("transaction", trial.payload)]
    return .error (.transport trial.phase error.message trial.payload)
  else
    Run.note .warn "Ledger error on a transaction expected to fail"
      [("phase", trial.phase.label), ("error", error.message)]
    return .ok (.rejectedAsExpected tx error.message)

/-- The verdict on a record, without the question who can read it. -/
def judgeRecord (markers : List String) (trial : Trial) (tx : TxId) (record : Value) : Run Verdict := do
  match errorMarker markers record, trial.expectSuccess with
  | some error, true =>
    Run.note .error "Transaction failed unexpectedly"
      [("tx_id", tx), ("error", error), ("transaction", trial.payload)]
    return .error (.unexpectedTransactionError tx error trial.payload)
  | some error, false =>
    Run.note .debug "Transaction rejected as expected" [("tx_id", tx), ("error", error)]
    return .ok (.rejectedAsExpected (some tx) error)
  | none, true => return .ok (.committed tx record)
  | none, false =>
    Run.note .error "Transaction committed but was expected to fail"
      [("tx_id", tx), ("transaction", trial.payload)]
    return .error (.missingExpectedError tx trial.payload)

/-- The verdict on a committed transaction. -/
def judge (markers : List String) (trial : Trial) (tx : TxId) (record : Value) (ownVisible : Bool) :
    Run Verdict := do
  if ownVisible then judgeRecord markers trial tx record
  else if trial.expectSuccess then
    Run.note .error "Submitter cannot read its own transaction"
      [("tx_id", tx), ("transaction", trial.payload)]
    return .error (.insufficientOwnReadRights tx trial.payload)
  else
    Run.note .warn "Submitter cannot read its own transaction; failure was expected, continuing"
      [("tx_id", tx), ("transaction", trial.payload)]
    judgeRecord markers trial tx record

/-- One round of lookups after so many attempts: a verdict, or none when the transaction is not
committed yet. -/
def round (monitor : Monitor) (trial : Trial) (tx : TxId) (attempts : Nat) : Run (Option Verdict) := do
  match ← Run.ask (.lookup trial.privileged tx) with
  | .error error => return some (← onLedgerError trial (some tx) error)
  | .ok authoritative =>
    match ← Run.ask (.lookup trial.submitter tx) with
    | .error error => return some (← onLedgerError trial (some tx) error)
    | .ok own =>
      match authoritative with
      | [] => return none
      | record :: _ =>
        Run.note .debug "Transaction committed" [("tx_id", tx), ("attempts", toString attempts)]
        return some (← judge monitor.markers trial tx record !own.isEmpty)

/-- Whether to go on after a rest: the version of the stop signal to compare with from now on, none
once the signal is closed. -/
inductive AfterRest where
  | goOn (seen : Option Nat)
  | stop
deriving DecidableEq, Repr

/-- Rests between two rounds. A closed stop signal is not listened to any more. -/
def rest (policy : PollPolicy) (seen : Option Nat) : Run AfterRest := do
  match seen with
  | none =>
    Run.sleep policy.interval
    return .goOn none
  | some version =>
    match ← Run.perform (.rest policy.interval version) with
    | .timeUp => return .goOn (some version)
    | .closed => return .goOn none
    | .changed version =>
      if ← Run.perform .stopRequested then return .stop
      return .goOn (some version)

/-- Gives up on a transaction. -/
def timeOut (trial : Trial) (tx : TxId) (attempts : Nat) (waited : Duration) : Run Verdict := do
  Run.note .error "Gave up waiting for transaction"
    [("tx_id", tx), ("attempts", toString attempts), ("transaction", trial.payload)]
  return .error (.timedOut tx attempts waited)

/-- Rounds of lookups with rests between them, until there is a verdict, the time is over or the
stop signal is set. -/
def poll (monitor : Monitor) (trial : Trial) (tx : TxId) (started : Duration) (attempts : Nat)
    (seen : Option Nat) : (fuel : Nat) → Run Verdict
  | 0 => timeOut trial tx attempts ⟨0⟩
  | fuel + 1 => do
    if ← Run.perform .stopRequested then return .error (.cancelled tx)
    match ← round monitor trial tx attempts with
    | some verdict => return verdict
    | none =>
      let attempts := attempts + 1
      if monitor.policy.noticeDue attempts then
        Run.note .info "Still waiting for transaction to commit"
          [("tx_id", tx), ("attempt", toString attempts)]
      let waited := (← Run.now).since started
      if monitor.policy.isOver waited then timeOut trial tx attempts waited
      else
        match ← rest monitor.policy seen with
        | .stop => return .error (.cancelled tx)
        | .goOn seen => poll monitor trial tx started attempts seen fuel

/-- Submits the transaction of a trial and waits for the verdict. Only what happens to the stop
signal after its first version counts as a change. -/
def check (monitor : Monitor) (trial : Trial) : Run Verdict := do
  match ← Run.ask (.submit trial.submitter trial.transaction) with
  | .error error => onLedgerError trial none error
  | .ok tx =>
    Run.note .debug "Submitted transaction"
      [("tx_id", tx), ("identity", trial.submitter.key.account)]
    let started ← Run.now
    poll monitor trial tx started 0 (some 0) maxAttempts

end Monitor

end LedgerRehearsal
