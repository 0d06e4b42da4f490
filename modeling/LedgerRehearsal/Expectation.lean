import LedgerRehearsal.Failure.Inspect

/-!
Expectations on the result of a test. One that does not hold gives the report with which the test
fails: what was expected and what came, or which part of the error is not as expected.
-/

namespace LedgerRehearsal.Expectation

/-- Two values that have to be equal, with their texts. -/
def requireEqual {α : Type} [DecidableEq α] (about : String) (inspect : α → String)
    (came expected : α) : Except String Unit :=
  if came = expected then .ok ()
  else .error ("assertion `left == right` failed: " ++ about ++ "\n  left: " ++ inspect came ++
    "\n right: " ++ inspect expected)

def inspectPair (pair : Nat × Nat) : String := s!"({pair.1}, {pair.2})"

variable {α : Type} (inspect : α → String)

private def unexpected (wanted : String) (result : Except Failure α) : String :=
  s!"Expected {wanted}, got: " ++ inspectResult Failure.inspect inspect result

/-- The result has to be a scenario error, which is handed back. -/
def scenarioError (result : Except Failure α) : Except String ScenarioError :=
  match result with
  | .error (.scenario error) => .ok error
  | other => .error (unexpected inspect "Scenario error" other)

def settingsError (result : Except Failure α) : Except String Unit :=
  match result with
  | .error (.settings _) => .ok ()
  | other => .error (unexpected inspect "Config error" other)

def templateError (result : Except Failure α) : Except String Unit :=
  match result with
  | .error (.template _) => .ok ()
  | other => .error (unexpected inspect "Template error" other)

/-- The result has to be this very mismatch of roles and entries. -/
def roleCountMismatch (scenario : String) (phase : Phase) (roles entries : Nat)
    (result : Except Failure α) : Except String Unit :=
  match result with
  | .error (.scenario (.roleCountMismatch s p r e)) => do
    requireEqual "Wrong scenario in RoleCountMismatch" Text.quoted s scenario
    requireEqual "Wrong phase in RoleCountMismatch" Phase.title p phase
    requireEqual "Wrong counts in RoleCountMismatch" inspectPair (r, e) (roles, entries)
  | other =>
    .error (unexpected inspect
      s!"RoleCountMismatch({scenario}, {phase.label}, {roles}, {entries})" other)

/-- The result has to be a template error with these very counts. -/
def countMismatch (slots params : Nat) (result : Except TemplateError α) : Except String Unit :=
  match result with
  | .error (.countMismatch s p _) => do
    requireEqual "Wrong expected count" (toString ·) s slots
    requireEqual "Wrong actual count" (toString ·) p params
  | other =>
    .error (s!"Expected ParameterCountMismatch({slots}, {params}), got: " ++
      inspectResult (fun error => error.inspection.text) inspect other)

end LedgerRehearsal.Expectation
