import LedgerRehearsal.Failure
import LedgerRehearsal.Proofs.Text.Lines

/-! The wording of failures. A message is made of fixed words, of numbers and of texts that the
program words itself, all on one line, and of texts that it quotes as they are: names, paths, and
what the ledger or a reader said. So the message is on one line when these texts are. -/
namespace LedgerRehearsal

@[simp] theorem toString_text (text : String) : toString text = text := rfl

@[simp] theorem Phase.newline_not_mem_label (phase : Phase) : '\n' ∉ phase.label.toList := by
  cases phase <;> decide

/-- The texts in the message that come from elsewhere. -/
def TemplateError.quotes : TemplateError → List String
  | countMismatch .. | invalidOperation _ => []
  | resolution path _ => [path.text]
  | inFile path cause => path.text :: cause.quotes

def ScenarioError.quotes : ScenarioError → List String
  | roleCountMismatch scenario .. => [scenario]
  | roleIndexOutOfRange scenario set .. => [scenario,set]
  | insufficientOwnReadRights tx _ | missingExpectedError tx _ | timedOut tx .. | cancelled tx =>
    [tx]
  | unexpectedTransactionError tx error _ => [tx,error]
  | emptyQueryResult .. | unexpectedQueryResult .. => []
  | privilegedTransactionFailed _ reason _ | transport _ reason _ => [reason]

def LedgerError.quotes : LedgerError → List String
  | transport reason | invalidResponse reason => [reason]
  | rejected _ message => [message]
  | unknownDatabase database => [database]

def SettingsError.quotes : SettingsError → List String
  | missingPath => []
  | unreadable path _ => [path.text]
  | malformed path reason => [path.text,reason]
  | invalidValue field reason => [field,reason]
  | unknownTarget target => [target]
  | unknownStage target stage => [target,stage]

def Failure.quotes : Failure → List String
  | template error => error.quotes
  | scenario error => error.quotes
  | ledger error => error.quotes
  | settings error => error.quotes
  | schemaSetup stage source reason _ => [stage,source,reason]
  | artifactWrite path _ => [path.text]

/-- What the program words itself is on one line; the reason for which a file is of no use may quote
a part of its path. -/
inductive TemplateError.Worded : TemplateError → Prop where
  | countMismatch (slots params : Nat) {query : String} :
      OneLine query → Worded (countMismatch slots params query)
  | resolution {path : Path} {reason : String} :
      (OneLine path.text → OneLine reason) → Worded (resolution path reason)
  | invalidOperation {reason : String} : OneLine reason → Worded (invalidOperation reason)
  | inFile (path : Path) {cause : TemplateError} : Worded cause → Worded (inFile path cause)

inductive SettingsError.Worded : SettingsError → Prop where
  | missingPath : Worded missingPath
  | unreadable (path : Path) {reason : String} : OneLine reason → Worded (unreadable path reason)
  | malformed (path : Path) (reason : String) : Worded (malformed path reason)
  | invalidValue (field reason : String) : Worded (invalidValue field reason)
  | unknownTarget (target : String) : Worded (unknownTarget target)
  | unknownStage (target stage : String) : Worded (unknownStage target stage)

inductive Failure.Worded : Failure → Prop where
  | template {error : TemplateError} : error.Worded → Worded (template error)
  | scenario (error : ScenarioError) : Worded (scenario error)
  | ledger (error : LedgerError) : Worded (ledger error)
  | settings {error : SettingsError} : error.Worded → Worded (settings error)
  | schemaSetup (stage source reason transaction : String) :
      Worded (schemaSetup stage source reason transaction)
  | artifactWrite (path : Path) {reason : String} :
      OneLine reason → Worded (artifactWrite path reason)

theorem TemplateError.oneLine_message {error : TemplateError} (worded : error.Worded) :
    OneLine error.message ↔ ∀ text ∈ error.quotes, OneLine text := by
  induction worded with
  | countMismatch _ _ own | resolution own | invalidOperation own =>
    unfold message quotes
    simpa [OneLine] using own
  | inFile path _ inner =>
    unfold message quotes
    simp only [OneLine] at inner
    simp [OneLine,inner]

theorem ScenarioError.oneLine_message (error : ScenarioError) :
    OneLine error.message ↔ ∀ text ∈ error.quotes, OneLine text := by
  cases error
  all_goals
    unfold message quotes
    simp [OneLine,and_comm]

theorem LedgerError.oneLine_message (error : LedgerError) :
    OneLine error.message ↔ ∀ text ∈ error.quotes, OneLine text := by
  cases error
  all_goals
    unfold message quotes
    simp [OneLine]

theorem SettingsError.oneLine_message {error : SettingsError} (worded : error.Worded) :
    OneLine error.message ↔ ∀ text ∈ error.quotes, OneLine text := by
  cases worded with
  | unreadable path own =>
    unfold message quotes
    simpa [OneLine] using fun _ => own
  | missingPath | malformed | invalidValue | unknownTarget | unknownStage =>
    unfold message quotes
    simp [OneLine,and_comm]

/-- A failure is reported on one line when the texts that its message quotes are on one line. -/
theorem Failure.oneLine_message {failure : Failure} (worded : failure.Worded) :
    OneLine failure.message ↔ ∀ text ∈ failure.quotes, OneLine text := by
  have prefixed {words text : String} (fixed : OneLine words) :
      OneLine (words ++ text) ↔ OneLine text := by
    simp [fixed]
  cases worded with
  | template inner => exact (prefixed (by decide)).trans (TemplateError.oneLine_message inner)
  | scenario error => exact (prefixed (by decide)).trans error.oneLine_message
  | ledger error => exact (prefixed (by decide)).trans error.oneLine_message
  | settings inner => exact (prefixed (by decide)).trans (SettingsError.oneLine_message inner)
  | schemaSetup =>
    unfold message quotes
    simp [OneLine]
  | artifactWrite path own =>
    unfold message quotes
    simpa [OneLine] using fun _ => own

end LedgerRehearsal
