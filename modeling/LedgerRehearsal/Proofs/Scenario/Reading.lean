import LedgerRehearsal.Proofs.Expansion
import LedgerRehearsal.Proofs.Files.Frame
import LedgerRehearsal.Proofs.Scenario.Loading

/-! What the plan of a scenario is made from: its role table, the entries of its phases, and the
template files that its operations name. A tree that is the same in all of these gives the same plan,
and the same error when there is none. -/
namespace LedgerRehearsal

open Json

variable {files after : Files} {dir : Path}

theorem resolveFile_congr [Diagnostics] {file : String}
    (same : after.read (dir.join file) = files.read (dir.join file)) (params : List Value) :
    resolveFile after dir file params = resolveFile files dir file params := by
  simp only [resolveFile,same]

theorem Operation.expand_congr [Diagnostics] {operation : Operation}
    (same : ∀ file params, operation.code = some (.ofFile file params) →
      after.read (dir.join file) = files.read (dir.join file)) :
    operation.expand after dir = operation.expand files dir := by
  unfold expand
  split
  · rfl
  · rename_i code brought
    cases code with
    | verbatim code => rfl
    | ofQuery query params => rfl
    | ofFile file params =>
      simp only [Code.expand,resolveFile_congr (same file params brought)]

namespace Scenario

variable {name : String} {phase : Phase} {plan : ScenarioPlan} {entry : Value} {file : String}

/-- An entry is wrapped when it stands alone in a list. -/
inductive Wrapped : Value → Value → Prop where
  | same (entry : Value) : Wrapped entry entry
  | alone {entry : Value} : (∀ items, entry ≠ .list items) → Wrapped entry (.list [entry])

theorem Wrapped.entryTransaction_eq {other : Value} (wrapped : Wrapped entry other) :
    entryTransaction other = entryTransaction entry := by
  cases wrapped with
  | same => rfl
  | alone single =>
    have read : entryTransaction (.list [entry]) = (Operation.ofValue entry).map fun o => [o] := by
      change [entry].mapM Operation.ofValue = _
      rw [List.mapM_cons]
      cases Operation.ofValue entry <;> rfl
    rw [read]
    unfold entryTransaction
    split
    · exact absurd rfl (single _)
    · rfl

/-- Two results of reading a phase that hold the same entries, wrapped or not. -/
inductive Alike : Except SettingsError (Option (List Value)) →
    Except SettingsError (Option (List Value)) → Prop where
  | failed (error : SettingsError) : Alike (.error error) (.error error)
  | found {entries others : Option (List Value)} :
      List.Forall₂ Wrapped (entries.getD []) (others.getD []) → Alike (.ok entries) (.ok others)

theorem Alike.refl (result : Except SettingsError (Option (List Value))) : Alike result result := by
  cases result with
  | error error => exact .failed error
  | ok entries => exact .found (List.forall₂_same.mpr fun entry _ => .same entry)

variable [Diagnostics]

/-- An operation of the entry has the file as its template. -/
def EntryNames (entry : Value) (file : String) : Prop :=
  ∃ transaction, entryTransaction entry = .ok transaction ∧
    ∃ operation ∈ transaction, ∃ params, operation.code = some (.ofFile file params)

theorem loadEntry_congr
    (same : ∀ file, EntryNames entry file →
      after.read (dir.join file) = files.read (dir.join file)) :
    loadEntry after dir entry = loadEntry files dir entry := by
  unfold loadEntry
  cases read : entryTransaction entry with
  | error error => simp only [bind,Except.bind]
  | ok transaction =>
    refine Except.mapM_congr (List.forall₂_same.mpr fun operation member => ?_)
    exact Operation.expand_congr fun file params brought =>
      same file ⟨transaction,read,operation,member,params,brought⟩

/-- The templates of an entry that was loaded could be read. -/
theorem read_of_loadEntry {transaction : Transaction}
    (loaded : loadEntry files dir entry = .ok transaction) (named : EntryNames entry file) :
    ∃ text, files.read (dir.join file) = .ok text := by
  obtain ⟨templates,read,operation,member,params,brought⟩ := named
  obtain ⟨given,same,expanded⟩ := Except.bind_eq_ok.mp loaded
  obtain rfl := Except.ok.inj (read.symm.trans same)
  obtain ⟨result,done⟩ := Except.exists_mapM_iff.mp ⟨_,expanded⟩ operation member
  cases read : files.read (dir.join file) with
  | ok text => exact ⟨text,rfl⟩
  | error error =>
    unfold Operation.expand at done
    rw [brought] at done
    simp only [Code.expand,resolveFile_unreadable read] at done
    contradiction

theorem Wrapped.loadEntry_eq {other : Value} (wrapped : Wrapped entry other) :
    loadEntry files dir other = loadEntry files dir entry := by
  rw [loadEntry,loadEntry,wrapped.entryTransaction_eq]

/-- The entries of a phase that are read as transactions. -/
def transactionEntries (phase : Phase) (entries : List Value) : List Value :=
  match phase with
  | .prepare | .cleanup => [.list entries]
  | .yesQuery | .noQuery => []
  | .yesTransaction | .noTransaction => entries

/-- An operation of the scenario has the file as its template. -/
inductive Names (files : Files) (dir : Path) (file : String) : Prop where
  | intro {phase : Phase} {entries : List Value} {entry : Value} :
      phaseEntries files dir phase = .ok (some entries) → entry ∈ transactionEntries phase entries →
      EntryNames entry file → Names files dir file

/-- The entries of a phase; one without a file has none. -/
def given (files : Files) (dir : Path) (phase : Phase) : Except SettingsError (List Value) :=
  (phaseEntries files dir phase).map fun entries => entries.getD []

theorem loadQueries_eq (files : Files) (dir : Path) (phase : Phase) :
    loadQueries files dir phase =
      ((given files dir phase).mapError .settings).map (List.map stripComments) := by
  unfold loadQueries given
  cases phaseEntries files dir phase <;> rfl

section

variable (reads : ∀ file, Names files dir file →
  after.read (dir.join file) = files.read (dir.join file))

include reads

theorem loadPrivileged_congr (same : phaseEntries after dir phase = phaseEntries files dir phase)
    (whole : ∀ entries, .list entries ∈ transactionEntries phase entries) :
    loadPrivileged after dir phase = loadPrivileged files dir phase := by
  unfold loadPrivileged
  rw [same]
  cases found : phaseEntries files dir phase with
  | error error => simp only [Except.mapError,bind,Except.bind]
  | ok entries? =>
    cases entries? with
    | none => simp only [Except.mapError,bind,Except.bind]
    | some entries =>
      have loaded : loadEntry after dir (.list entries) = loadEntry files dir (.list entries) :=
        loadEntry_congr fun file named => reads file (.intro found (whole entries) named)
      simp only [Except.mapError,bind,Except.bind,loaded]

theorem loadTransactions_congr
    (alike : Alike (phaseEntries files dir phase) (phaseEntries after dir phase))
    (each : ∀ entries, ∀ entry ∈ entries, entry ∈ transactionEntries phase entries) :
    loadTransactions after dir phase = loadTransactions files dir phase := by
  unfold loadTransactions
  cases found : phaseEntries files dir phase with
  | error error =>
    rw [found] at alike
    generalize phaseEntries after dir phase = changed at alike ⊢
    cases alike
    simp only [Except.mapError,bind,Except.bind]
  | ok entries? =>
    rw [found] at alike
    generalize phaseEntries after dir phase = changed at alike ⊢
    obtain _ | @⟨_,others?,wrapped⟩ := alike
    have same : ∀ entry ∈ entries?.getD [], loadEntry after dir entry = loadEntry files dir entry := by
      intro entry member
      cases entries? with
      | none => contradiction
      | some entries =>
        exact loadEntry_congr fun file named => reads file (.intro found (each _ _ member) named)
    refine congrArg (Except.mapError _) (Except.mapM_congr ?_)
    refine ((List.forall₂_and_left _ _).mpr ⟨same,wrapped⟩).imp fun entry other ⟨same,wrapped⟩ => ?_
    rw [wrapped.loadEntry_eq,same]

end

end Scenario

end LedgerRehearsal
