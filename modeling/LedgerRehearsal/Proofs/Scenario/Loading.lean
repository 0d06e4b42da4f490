import LedgerRehearsal.Proofs.Operation
import LedgerRehearsal.Proofs.Scenario.Sending

/-! Where the plan of a scenario comes from. Its transactions were read and expanded, and its
queries are the entries of the query files without their comments. -/
namespace LedgerRehearsal

open Json

namespace Scenario

variable [Diagnostics] {files : Files} {dir : Path} {name : String} {phase : Phase}
  {plan : ScenarioPlan}

/-- The parts of a plan that was loaded, each from its file. -/
structure Loaded (files : Files) (dir : Path) (plan : ScenarioPlan) : Prop where
  roles : RoleSets.load files dir = .ok plan.roles
  prepare : loadPrivileged files dir .prepare = .ok plan.prepare
  yes : loadQueries files dir .yesQuery = .ok plan.yes
  no : loadQueries files dir .noQuery = .ok plan.no
  tyes : loadTransactions files dir .yesTransaction = .ok plan.tyes
  tno : loadTransactions files dir .noTransaction = .ok plan.tno
  clean : loadPrivileged files dir .cleanup = .ok plan.clean

/-- A plan that was read has the name of its scenario. -/
theorem loaded_of_read (given : read files dir name = .ok plan) :
    plan.name = name ∧ Loaded files (dir.join name) plan := by
  obtain ⟨_,roles,given⟩ := Except.bind_eq_ok.mp given
  obtain ⟨_,prepare,given⟩ := Except.bind_eq_ok.mp given
  obtain ⟨_,yes,given⟩ := Except.bind_eq_ok.mp given
  obtain ⟨_,no,given⟩ := Except.bind_eq_ok.mp given
  obtain ⟨_,tyes,given⟩ := Except.bind_eq_ok.mp given
  obtain ⟨_,tno,given⟩ := Except.bind_eq_ok.mp given
  obtain ⟨_,clean,same⟩ := Except.bind_eq_ok.mp given
  cases same
  exact ⟨rfl,roles,prepare,yes,no,tyes,tno,clean⟩

theorem load_eq_ok :
    load files dir name = .ok plan ↔ read files dir name = .ok plan ∧ plan.check = .ok () := by
  rw [load,Except.bind_eq_ok]
  constructor
  · rintro ⟨_,given,checked⟩
    obtain ⟨⟨⟩,passed,same⟩ := Except.bind_eq_ok.mp checked
    cases same
    exact ⟨given,Except.mapError_eq_ok.mp passed⟩
  · rintro ⟨given,passed⟩
    refine ⟨plan,given,?_⟩
    rw [passed]
    rfl

theorem loaded_of_load (loaded : load files dir name = .ok plan) :
    Loaded files (dir.join name) plan :=
  (loaded_of_read (load_eq_ok.mp loaded).1).2

/-- A transaction as it stands on the ledger when it was read and expanded. -/
def Normal (transaction : Transaction) : Prop :=
  ∀ operation ∈ transaction, operation.WellFormed ∧ operation.isExpanded = true

theorem normal_loadEntry {entry : Value} {transaction : Transaction}
    (loaded : loadEntry files dir entry = .ok transaction) : Normal transaction := by
  obtain ⟨templates,read,expanded⟩ := Except.bind_eq_ok.mp loaded
  have formed : Transaction.WellFormed templates := by
    unfold entryTransaction at read
    split at read
    · exact Transaction.wellFormed_ofValue read
    · obtain ⟨operation,given,rfl⟩ := Except.map_eq_ok.mp read
      exact List.forall_mem_singleton.mpr (Operation.wellFormed_ofValue given)
  exact fun operation member => ⟨Transaction.wellFormed_expand formed expanded operation member,
    Transaction.isExpanded_expand expanded operation member⟩

theorem normal_loadTransactions {transactions : List Transaction}
    (loaded : loadTransactions files dir phase = .ok transactions) :
    ∀ transaction ∈ transactions, Normal transaction := by
  obtain ⟨entries,-,each⟩ := Except.bind_eq_ok.mp loaded
  intro transaction member
  obtain ⟨entry,-,given⟩ := Except.exists_of_mem_mapM (Except.mapError_eq_ok.mp each) member
  exact normal_loadEntry given

theorem normal_loadPrivileged {transaction : Transaction}
    (loaded : loadPrivileged files dir phase = .ok (some transaction)) : Normal transaction := by
  obtain ⟨entries?,-,whole⟩ := Except.bind_eq_ok.mp loaded
  split at whole
  · cases whole
  · obtain ⟨given,entry,same⟩ := Except.map_eq_ok.mp (Except.mapError_eq_ok.mp whole)
    cases same
    exact normal_loadEntry entry

/-- The entries in the file of a phase, each with the account of the key at its place. -/
def accountEntries (files : Files) (dir : Path) (phase : Phase) : List (String × Value) :=
  match RoleSets.load files dir, phaseEntries files dir phase with
  | .ok roles, .ok (some entries) =>
    ((roles.forPhase phase).zip entries).map fun (key,entry) => (key.account,entry)
  | _, _ => []

/-- An entry as it is asked for: without the comment of it or of its items. -/
def uncommented (entry : String × Value) : String × Value := (entry.1,stripComments entry.2)

theorem accountEntries_of_loaded {roles : RoleSets} {queries : List Value}
    (known : RoleSets.load files dir = .ok roles)
    (loaded : loadQueries files dir phase = .ok queries) :
    (accountEntries files dir phase).map uncommented =
      ((roles.forPhase phase).zip queries).map fun (key,query) => (key.account,query) := by
  obtain ⟨entries?,found,same⟩ := Except.bind_eq_ok.mp loaded
  have found := Except.mapError_eq_ok.mp found
  obtain rfl := Except.ok.inj same
  unfold accountEntries
  rw [known,found]
  cases entries? with
  | none => simp
  | some entries =>
    rw [Option.getD_some,List.zip_map_right,List.map_map,List.map_map]
    rfl

/-- The entries of the query files of a scenario: those that must find something come first. -/
def queryEntries (files : Files) (dir : Path) : List (String × Value) :=
  accountEntries files dir .yesQuery ++ accountEntries files dir .noQuery

end Scenario

/-- The identity and the value of a query. -/
def Sent.query? : Sent → Option (String × Value)
  | .query identity value => some (identity,value)
  | .transaction .. => none

theorem ScenarioPlan.queries_sends (plan : ScenarioPlan) (root : Key) :
    (plan.sends root).filterMap Sent.query? =
      ((plan.roles.yes.zip plan.yes).map fun (key,query) => (key.account,query)) ++
        (plan.roles.no.zip plan.no).map fun (key,query) => (key.account,query) := by
  simp [sends,Phase.all,phaseSends,privilegedSends,Function.comp_def,Sent.query?]

/-- The queries of a scenario are the entries of its query files without their comments. -/
theorem Scenario.Loaded.queries [Diagnostics] {files : Files} {dir : Path} {plan : ScenarioPlan}
    (loaded : Loaded files dir plan) (root : Key) :
    (plan.sends root).filterMap Sent.query? = (queryEntries files dir).map uncommented := by
  have yes := accountEntries_of_loaded loaded.roles loaded.yes
  have no := accountEntries_of_loaded loaded.roles loaded.no
  rw [ScenarioPlan.queries_sends,queryEntries,List.map_append,yes,no]
  rfl

end LedgerRehearsal
