import LedgerRehearsal.Duration
import LedgerRehearsal.Files.Path
import LedgerRehearsal.Identity
import LedgerRehearsal.Phase

/-!
The ways in which work fails, by concern: templates, scenarios, the ledger, settings and manifests.
Each failure says what caused it; `message` is its one wording. The text of a transaction or a
query that caused a failure is kept beside the message, as its `payload?`.
-/

namespace LedgerRehearsal

inductive TemplateError where
  /-- The query has another number of slots than there are parameters. -/
  | countMismatch (slots params : Nat) (query : String)
  /-- A file that a template or a stage needs cannot be used. -/
  | resolution (path : Path) (reason : String)
  | invalidOperation (reason : String)
  /-- The template in a file failed. -/
  | inFile (path : Path) (cause : TemplateError)
deriving DecidableEq, Repr

inductive ScenarioError where
  | roleCountMismatch (scenario : String) (phase : Phase) (roles entries : Nat)
  | roleIndexOutOfRange (scenario set : String) (index keys : Nat)
  /-- The submitter does not see the transaction it submitted. -/
  | insufficientOwnReadRights (tx : TxId) (transaction : String)
  | unexpectedTransactionError (tx : TxId) (error transaction : String)
  /-- A transaction that had to be refused was committed. -/
  | missingExpectedError (tx : TxId) (transaction : String)
  | emptyQueryResult (phase : Phase) (query : String)
  | unexpectedQueryResult (phase : Phase) (count : Nat) (query : String)
  | privilegedTransactionFailed (phase : Phase) (reason transaction : String)
  | transport (phase : Phase) (reason payload : String)
  | timedOut (tx : TxId) (attempts : Nat) (waited : Duration)
  | cancelled (tx : TxId)
deriving DecidableEq, Repr

inductive LedgerError where
  | transport (reason : String)
  | rejected (status : Nat) (message : String)
  | invalidResponse (reason : String)
  | unknownDatabase (database : String)
deriving DecidableEq, Repr

inductive SettingsError where
  | missingPath
  | unreadable (path : Path) (reason : String)
  | malformed (path : Path) (reason : String)
  | invalidValue (field reason : String)
  | unknownTarget (target : String)
  | unknownStage (target stage : String)
deriving DecidableEq, Repr

inductive Failure where
  | template (error : TemplateError)
  | scenario (error : ScenarioError)
  | ledger (error : LedgerError)
  | settings (error : SettingsError)
  /-- The schema of a stage could not be set up; `source` is the stage that the transaction came from. -/
  | schemaSetup (stage source reason transaction : String)
  | artifactWrite (path : Path) (reason : String)
deriving DecidableEq, Repr

def TemplateError.message : TemplateError → String
  | countMismatch slots params query =>
    s!"Parameter count mismatch: query has {slots} PARAM markers but {params} params were supplied: {query}"
  | resolution path reason => s!"Template resolution failed for {path.text}: {reason}"
  | invalidOperation reason => s!"Invalid operation: {reason}"
  | inFile path cause => "In template file " ++ path.text ++ ": " ++ cause.message

def ScenarioError.message : ScenarioError → String
  | roleCountMismatch scenario phase roles entries =>
    s!"Role count mismatch in scenario '{scenario}' {phase.label}: {roles} roles for {entries} entries"
  | roleIndexOutOfRange scenario set index keys =>
    s!"Role index {index} in '{set}' of scenario '{scenario}' is out of range ({keys} keys)"
  | insufficientOwnReadRights tx _ => s!"Insufficient rights to read own transaction {tx}"
  | unexpectedTransactionError tx error _ => s!"Transaction {tx} failed unexpectedly: {error}"
  | missingExpectedError tx _ => s!"Transaction {tx} committed but was expected to fail"
  | emptyQueryResult phase _ =>
    s!"Query in {phase.label} returned no results but results were expected"
  | unexpectedQueryResult phase count _ =>
    s!"Query in {phase.label} returned {count} results but none were expected"
  | privilegedTransactionFailed phase reason _ =>
    s!"Privileged {phase.label} transaction failed: {reason}"
  | transport phase reason _ => s!"Ledger error during {phase.label}: {reason}"
  | timedOut tx attempts waited =>
    s!"Timed out after {waited.text} ({attempts} polls) waiting for transaction {tx}"
  | cancelled tx => s!"Cancelled while waiting for transaction {tx}"

def LedgerError.message : LedgerError → String
  | transport reason => s!"Ledger transport error: {reason}"
  | rejected status message => s!"Ledger rejected request with status {status}: {message}"
  | invalidResponse reason => s!"Invalid ledger response: {reason}"
  | unknownDatabase database => s!"Unknown database: {database}"

def SettingsError.message : SettingsError → String
  | missingPath => "Missing configuration file path (use --config or TESSERA_CONFIG)"
  | unreadable path reason => s!"Failed to read {path.text}: {reason}"
  | malformed path reason => s!"Failed to parse {path.text}: {reason}"
  | invalidValue field reason => s!"Invalid config value for {field}: {reason}"
  | unknownTarget target => s!"Unknown build target: {target}"
  | unknownStage target stage => s!"Stage '{stage}' is not part of target '{target}'"

def Failure.message : Failure → String
  | template error => "Template error: " ++ error.message
  | scenario error => "Scenario error: " ++ error.message
  | ledger error => "Ledger error: " ++ error.message
  | settings error => "Config error: " ++ error.message
  | schemaSetup stage source reason _ =>
    s!"Schema setup for stage '{stage}' failed on the transaction from stage '{source}': {reason}"
  | artifactWrite path reason => s!"Failed to write artifact to {path.text}: {reason}"

def ScenarioError.payload? : ScenarioError → Option String
  | insufficientOwnReadRights _ transaction => some transaction
  | unexpectedTransactionError _ _ transaction => some transaction
  | missingExpectedError _ transaction => some transaction
  | emptyQueryResult _ query => some query
  | unexpectedQueryResult _ _ query => some query
  | privilegedTransactionFailed _ _ transaction => some transaction
  | transport _ _ payload => some payload
  | roleCountMismatch .. | roleIndexOutOfRange .. | timedOut .. | cancelled _ => none

def Failure.payload? : Failure → Option String
  | scenario error => error.payload?
  | schemaSetup _ _ _ transaction => some transaction
  | _ => none

end LedgerRehearsal
