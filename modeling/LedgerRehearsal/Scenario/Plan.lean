import LedgerRehearsal.Expansion
import LedgerRehearsal.Roles

/-!
Plans of scenarios. A scenario is a directory with a role table and a file for each of its phases,
any of which may be absent. Loading a plan reads, expands and checks all of them, so that running
it only talks to the ledger: every phase with keys of its own then has as many keys as entries.
-/

namespace LedgerRehearsal

open Json

variable [Diagnostics]

structure ScenarioPlan where
  name : String
  dir : Path
  roles : RoleSets
  prepare : Option Transaction
  yes : List Value
  no : List Value
  tyes : List Transaction
  tno : List Transaction
  clean : Option Transaction
deriving DecidableEq

/-- What `Option.isSome` counts. -/
private def countOf {α : Type} (option : Option α) : Nat := if option.isSome then 1 else 0

namespace ScenarioPlan

/-- How many entries a phase has. -/
def entries (plan : ScenarioPlan) : Phase → Nat
  | .yesQuery => plan.yes.length
  | .noQuery => plan.no.length
  | .yesTransaction => plan.tyes.length
  | .noTransaction => plan.tno.length
  | .prepare => countOf plan.prepare
  | .cleanup => countOf plan.clean

def checkPhase (plan : ScenarioPlan) (phase : Phase) : Except ScenarioError Unit :=
  let roles := (plan.roles.forPhase phase).length
  let entries := plan.entries phase
  if phase.roleSet?.isNone ∨ roles = entries then .ok ()
  else .error (.roleCountMismatch plan.name phase roles entries)

/-- Every phase with keys of its own has as many keys as entries. -/
def check (plan : ScenarioPlan) : Except ScenarioError Unit := Phase.all.forM plan.checkPhase

end ScenarioPlan

namespace Scenario

/-- The entries in the file of a phase, if it is there. -/
def phaseEntries (files : Files) (dir : Path) (phase : Phase) :
    Except SettingsError (Option (List Value)) := do
  let path := dir.join phase.file
  match ← readOptionalJson files path with
  | none => .ok none
  | some (.list entries) => .ok (some entries)
  | some _ => .error (.malformed path "expected a JSON list")

def loadQueries (files : Files) (dir : Path) (phase : Phase) : Except Failure (List Value) := do
  let entries ← (phaseEntries files dir phase).mapError .settings
  .ok ((entries.getD []).map stripComments)

/-- An entry is a list of operations or a single one. -/
def entryTransaction : Value → Except TemplateError Transaction
  | .list operations => Transaction.ofValue (.list operations)
  | single => (Operation.ofValue single).map fun operation => [operation]

def loadEntry (files : Files) (dir : Path) (entry : Value) : Except TemplateError Transaction := do
  let transaction ← entryTransaction entry
  transaction.expand files dir

def loadTransactions (files : Files) (dir : Path) (phase : Phase) : Except Failure (List Transaction) := do
  let entries ← (phaseEntries files dir phase).mapError .settings
  ((entries.getD []).mapM (loadEntry files dir)).mapError .template

/-- The whole file of a phase of the root key is one transaction. -/
def loadPrivileged (files : Files) (dir : Path) (phase : Phase) : Except Failure (Option Transaction) := do
  match ← (phaseEntries files dir phase).mapError .settings with
  | none => .ok none
  | some entries => ((loadEntry files dir (.list entries)).map some).mapError .template

/-- Reads the plan of the scenario in a directory, without the check of its counts. -/
def read (files : Files) (stageDir : Path) (name : String) : Except Failure ScenarioPlan := do
  let dir := stageDir.join name
  let roles ← RoleSets.load files dir
  let prepare ← loadPrivileged files dir .prepare
  let yes ← loadQueries files dir .yesQuery
  let no ← loadQueries files dir .noQuery
  let tyes ← loadTransactions files dir .yesTransaction
  let tno ← loadTransactions files dir .noTransaction
  let clean ← loadPrivileged files dir .cleanup
  .ok { name, dir, roles, prepare, yes, no, tyes, tno, clean }

def load (files : Files) (stageDir : Path) (name : String) : Except Failure ScenarioPlan := do
  let plan ← read files stageDir name
  plan.check.mapError .scenario
  .ok plan

/-- What is reported of the files of the entries of a phase. -/
def entryNotices (files : Files) (dir : Path) (entries : List Value) : List Notice :=
  Notice.untilFailure (entries.map fun entry =>
    ((((entryTransaction entry).toOption.map (Transaction.notices files dir)).getD []),
      (loadEntry files dir entry).toBool))

/-- What is reported of the files of a phase that transactions are read from. -/
def phaseNotices (files : Files) (dir : Path) (phase : Phase) (whole : Bool) : List Notice :=
  match phaseEntries files dir phase with
  | .ok (some entries) => entryNotices files dir (if whole then [.list entries] else entries)
  | _ => []

/-- What is reported while a plan is read, as far as it can be read. -/
def readNotices (files : Files) (stageDir : Path) (name : String) : List Notice :=
  let dir := stageDir.join name
  Notice.untilFailure
    [([], (RoleSets.load files dir).toBool),
      (phaseNotices files dir .prepare true, (loadPrivileged files dir .prepare).toBool),
      ([], (loadQueries files dir .yesQuery).toBool),
      ([], (loadQueries files dir .noQuery).toBool),
      (phaseNotices files dir .yesTransaction false, (loadTransactions files dir .yesTransaction).toBool),
      (phaseNotices files dir .noTransaction false, (loadTransactions files dir .noTransaction).toBool),
      (phaseNotices files dir .cleanup true, (loadPrivileged files dir .cleanup).toBool)]

/-- What is reported when a plan cannot be loaded: a template file that does not compile, and that
the scenario in the given place is invalid. -/
def loadNotices (failure : Failure) (place : List (String × String) := []) : List Notice :=
  (match failure with
    | .template error => error.notices
    | _ => []) ++
    [⟨.error, "Invalid scenario", place ++ [("error", failure.message)]⟩]

end Scenario

end LedgerRehearsal
