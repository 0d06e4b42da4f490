import LedgerRehearsal.Failure

/-!
Failures and results as people look at them: the constructor with its fields in the order of their
declaration, texts quoted.
-/

namespace LedgerRehearsal

/-- A constructor by its name, with the names and texts of its fields. -/
structure Inspection where
  name : String
  fields : List (String × String)
deriving DecidableEq, Repr

/-- A constructor without fields is its bare name. -/
def Inspection.text (inspection : Inspection) : String :=
  if inspection.fields.isEmpty then inspection.name
  else inspection.name ++ " \x7b "
    ++ ", ".intercalate (inspection.fields.map fun (field, text) => field ++ ": " ++ text) ++ " \x7d"

/-- A constructor around one value. -/
def inspectWrapped (name inner : String) : String := name ++ "(" ++ inner ++ ")"

private def shownText (field text : String) : String × String := (field, Text.quoted text)

private def shownPath (path : Path) : String × String := ("path", Text.quoted path.text)

private def shownNat (field : String) (n : Nat) : String × String := (field, toString n)

private def shownPhase (phase : Phase) : String × String := ("phase", phase.title)

def TemplateError.inspection : TemplateError → Inspection
  | countMismatch slots params query =>
    ⟨"ParameterCountMismatch",
      [shownNat "expected" slots, shownNat "actual" params, shownText "query" query]⟩
  | resolution path reason => ⟨"Resolution", [shownPath path, shownText "reason" reason]⟩
  | invalidOperation reason => ⟨"InvalidOperation", [shownText "reason" reason]⟩
  | inFile path cause => ⟨"InFile", [shownPath path, ("source", cause.inspection.text)]⟩

def ScenarioError.inspection : ScenarioError → Inspection
  | roleCountMismatch scenario phase roles entries =>
    ⟨"RoleCountMismatch",
      [shownText "scenario" scenario, shownPhase phase, shownNat "roles" roles, shownNat "entries" entries]⟩
  | roleIndexOutOfRange scenario set index keys =>
    ⟨"RoleIndexOutOfRange",
      [shownText "scenario" scenario, shownText "set" set, shownNat "index" index, shownNat "keys" keys]⟩
  | insufficientOwnReadRights tx transaction =>
    ⟨"InsufficientOwnReadRights",
      [shownText "tx_id" tx, shownText "transaction" transaction]⟩
  | unexpectedTransactionError tx error transaction =>
    ⟨"UnexpectedTransactionError",
      [shownText "tx_id" tx, shownText "error" error, shownText "transaction" transaction]⟩
  | missingExpectedError tx transaction =>
    ⟨"MissingExpectedError", [shownText "tx_id" tx, shownText "transaction" transaction]⟩
  | emptyQueryResult phase query =>
    ⟨"EmptyQueryResult", [shownPhase phase, shownText "query" query]⟩
  | unexpectedQueryResult phase count query =>
    ⟨"UnexpectedQueryResult",
      [shownPhase phase, shownNat "count" count, shownText "query" query]⟩
  | privilegedTransactionFailed phase reason transaction =>
    ⟨"PrivilegedTransactionFailed",
      [shownPhase phase, shownText "reason" reason, shownText "transaction" transaction]⟩
  | transport phase reason payload =>
    ⟨"Transport", [shownPhase phase, shownText "reason" reason, shownText "payload" payload]⟩
  | timedOut tx attempts waited =>
    ⟨"TimedOut",
      [shownText "tx_id" tx, shownNat "attempts" attempts, ("waited", waited.text)]⟩
  | cancelled tx => ⟨"Cancelled", [shownText "tx_id" tx]⟩

def LedgerError.inspection : LedgerError → Inspection
  | transport reason => ⟨"Transport", [shownText "reason" reason]⟩
  | rejected status message =>
    ⟨"Rejected", [shownNat "status" status, shownText "message" message]⟩
  | invalidResponse reason => ⟨"InvalidResponse", [shownText "reason" reason]⟩
  | unknownDatabase database => ⟨"UnknownDatabase", [shownText "database" database]⟩

def SettingsError.inspection : SettingsError → Inspection
  | missingPath => ⟨"MissingConfigPath", []⟩
  | unreadable path reason => ⟨"Io", [shownPath path, shownText "reason" reason]⟩
  | malformed path reason => ⟨"Parse", [shownPath path, shownText "reason" reason]⟩
  | invalidValue field reason =>
    ⟨"InvalidValue", [shownText "field" field, shownText "reason" reason]⟩
  | unknownTarget target => ⟨"UnknownTarget", [shownText "target" target]⟩
  | unknownStage target stage =>
    ⟨"UnknownStage", [shownText "target" target, shownText "stage" stage]⟩

/-- The concern that a failure belongs to, where it is not a concern of its own. -/
def Failure.concern? : Failure → Option String
  | template _ => some "Template"
  | scenario _ => some "Scenario"
  | ledger _ => some "Ledger"
  | settings _ => some "Config"
  | schemaSetup .. | artifactWrite .. => none

/-- The failure itself, inside its concern. -/
def Failure.inspection : Failure → Inspection
  | template error => error.inspection
  | scenario error => error.inspection
  | ledger error => error.inspection
  | settings error => error.inspection
  | schemaSetup stage source reason transaction =>
    ⟨"SchemaSetupFailed",
      [shownText "stage" stage, shownText "source_stage" source, shownText "reason" reason,
        shownText "transaction" transaction]⟩
  | artifactWrite path reason => ⟨"ArtifactWrite", [shownPath path, shownText "reason" reason]⟩

def Failure.inspect (failure : Failure) : String :=
  match failure.concern? with
  | some concern => inspectWrapped concern failure.inspection.text
  | none => failure.inspection.text

/-- The kind of a failure: its name behind that of its concern. -/
def Failure.kind (failure : Failure) : String :=
  match failure.concern? with
  | some concern => concern ++ "." ++ failure.inspection.name
  | none => failure.inspection.name

/-- A result whose value and error are shown by the given functions. -/
def inspectResult {ε α : Type} (inspectError : ε → String) (inspectValue : α → String) :
    Except ε α → String
  | .ok value => inspectWrapped "Ok" (inspectValue value)
  | .error error => inspectWrapped "Err" (inspectError error)

end LedgerRehearsal
