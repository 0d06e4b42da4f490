import LedgerRehearsal.Proofs.Manifest
import LedgerRehearsal.Proofs.Scenario.Reading

/-! Changing one file of a scenario. A file of no entries is as good as none, and an entry may stand
alone in a list, unless an operation of the scenario has that very file as its template. -/
namespace LedgerRehearsal

open Json

namespace Scenario

variable {files after : Files} {dir : Path} {phase other : Phase} {text : String}

theorem file_injective {phase other : Phase} (same : phase.file = other.file) : phase = other := by
  cases phase <;> cases other <;> first | rfl | exact absurd same (by decide)

variable [Diagnostics]

/-- The file of one phase was changed, and no other file. -/
structure Changed (files after : Files) (dir : Path) (phase : Phase) : Prop where
  roles : RoleSets.load after dir = RoleSets.load files dir
  others {other : Phase} : other ≠ phase → phaseEntries after dir other = phaseEntries files dir other

theorem changed_of_write (written : files.write (dir.join phase.file) text = (.ok (),after)) :
    Changed files after dir phase := by
  obtain ⟨place,⟨found,-,-⟩,rfl⟩ := Files.write_eq_ok.mp written
  have solid := Files.taking_solid text (files.at? place)
  refine ⟨?_,fun {other} apart => ?_⟩
  · have apart : roleFile ≠ phase.file := by cases phase <;> decide
    obtain ⟨same,-⟩ := Files.read_beside solid (isName_file phase) found isName_roleFile apart
    simp only [RoleSets.load,readJson,same]
  · obtain ⟨same,there⟩ := Files.read_beside solid (isName_file phase) found
      (isName_file other) fun same => apart (file_injective same)
    simp only [phaseEntries,readOptionalJson,readJson,same,there]

/-- The entries of a phase are those of the list in its file. -/
theorem phaseEntries_eq_some {entries : List Value} :
    phaseEntries files dir phase = .ok (some entries) ↔
      ∃ text, files.read (dir.join phase.file) = .ok text ∧ parse text = some (.list entries) := by
  rw [phaseEntries,Except.bind_eq_ok]
  constructor
  · rintro ⟨value?,read,listed⟩
    split at listed
    · cases listed
    · cases listed
      exact readOptionalJson_eq_some.mp read
    · cases listed
  · intro held
    exact ⟨_,readOptionalJson_eq_some.mpr held,rfl⟩

theorem phaseEntries_missing (missing : files.exists? (dir.join phase.file) = false) :
    phaseEntries files dir phase = .ok none := by
  simp only [phaseEntries,readOptionalJson,missing]
  rfl

theorem Changed.load_eq (changed : Changed files after dir phase) (bound : phase.roleSet?.isSome)
    (alike : Alike (phaseEntries files dir phase) (phaseEntries after dir phase))
    (queries : phase = .yesQuery ∨ phase = .noQuery →
      given after dir phase = given files dir phase)
    (reads : ∀ file, Names files dir file →
      after.read (dir.join file) = files.read (dir.join file)) {stageDir : Path} {name : String}
    (here : dir = stageDir.join name) : load after stageDir name = load files stageDir name := by
  subst here
  have alikeAll (other : Phase) :
      Alike (phaseEntries files (stageDir.join name) other)
        (phaseEntries after (stageDir.join name) other) := by
    by_cases same : other = phase
    · exact same ▸ alike
    · rw [changed.others same]
      exact .refl _
  have queriesAll (other : Phase) (query : other = .yesQuery ∨ other = .noQuery) :
      loadQueries after (stageDir.join name) other = loadQueries files (stageDir.join name) other := by
    rw [loadQueries_eq,loadQueries_eq]
    by_cases same : other = phase
    · subst same
      rw [queries query]
    · rw [given,changed.others same,given]
  have unbound {other : Phase} (root : other.roleSet? = none) : other ≠ phase := by
    rintro rfl
    rw [root] at bound
    contradiction
  have privileged (root : Phase) (unbound : root ≠ phase)
      (whole : ∀ entries, .list entries ∈ transactionEntries root entries) :
      loadPrivileged after (stageDir.join name) root =
        loadPrivileged files (stageDir.join name) root :=
    loadPrivileged_congr reads (changed.others unbound) whole
  have prepare := privileged .prepare (unbound rfl) fun _ => List.mem_singleton.mpr rfl
  have clean := privileged .cleanup (unbound rfl) fun _ => List.mem_singleton.mpr rfl
  have tyes := loadTransactions_congr reads (alikeAll .yesTransaction) fun _ _ member => member
  have tno := loadTransactions_congr reads (alikeAll .noTransaction) fun _ _ member => member
  have yes := queriesAll .yesQuery (.inl rfl)
  have no := queriesAll .noQuery (.inr rfl)
  simp only [load,read,changed.roles,prepare,yes,no,tyes,tno,clean]

/-- An operation of the scenario has the file under the path as its template. -/
def NamesFile (files : Files) (dir path : Path) : Prop :=
  ∃ file place, Names files dir file ∧ files.locate (dir.join file) = .ok place ∧
    files.locate path = .ok place

section

variable {stageDir : Path} {name : String} {plan : ScenarioPlan}

theorem loadEntry_of_loadPrivileged {transaction? : Option Transaction} {entries : List Value}
    (loaded : loadPrivileged files dir phase = .ok transaction?)
    (found : phaseEntries files dir phase = .ok (some entries)) :
    ∃ transaction, loadEntry files dir (.list entries) = .ok transaction := by
  unfold loadPrivileged at loaded
  rw [found] at loaded
  obtain ⟨transaction,done,-⟩ := Except.map_eq_ok.mp (Except.mapError_eq_ok.mp loaded)
  exact ⟨transaction,done⟩

theorem loadEntry_of_loadTransactions {transactions : List Transaction} {entries : List Value}
    (loaded : loadTransactions files dir phase = .ok transactions)
    (found : phaseEntries files dir phase = .ok (some entries)) :
    ∀ entry ∈ entries, ∃ transaction, loadEntry files dir entry = .ok transaction := by
  unfold loadTransactions at loaded
  rw [found] at loaded
  exact Except.exists_mapM_iff.mp ⟨transactions,Except.mapError_eq_ok.mp loaded⟩

/-- The templates of a plan that was loaded could be read. -/
theorem read_of_load (loaded : load files stageDir name = .ok plan) {file : String}
    (named : Names files (stageDir.join name) file) :
    ∃ text, files.read ((stageDir.join name).join file) = .ok text := by
  have parts := loaded_of_load loaded
  obtain @⟨phase,entries,entry,found,member,named⟩ := named
  have ⟨transaction,done⟩ : ∃ transaction,
      loadEntry files (stageDir.join name) entry = .ok transaction := by
    cases phase with
    | prepare =>
      obtain rfl := List.mem_singleton.mp member
      exact loadEntry_of_loadPrivileged parts.prepare found
    | yesQuery | noQuery => exact absurd member List.not_mem_nil
    | yesTransaction => exact loadEntry_of_loadTransactions parts.tyes found entry member
    | noTransaction => exact loadEntry_of_loadTransactions parts.tno found entry member
    | cleanup =>
      obtain rfl := List.mem_singleton.mp member
      exact loadEntry_of_loadPrivileged parts.clean found
  exact read_of_loadEntry done named

/-- An entry of a transaction phase may stand alone in a list. -/
theorem load_wrapped {entries others : List Value}
    (transactions : phase = .yesTransaction ∨ phase = .noTransaction)
    (found : phaseEntries files (stageDir.join name) phase = .ok (some entries))
    (parsed : parse text = some (.list others)) (wrapped : List.Forall₂ Wrapped entries others)
    (written : files.write ((stageDir.join name).join phase.file) text = (.ok (),after))
    (unnamed : ¬ NamesFile files (stageDir.join name) ((stageDir.join name).join phase.file)) :
    load after stageDir name = load files stageDir name := by
  have changed := changed_of_write written
  have bound : phase.roleSet?.isSome := by rcases transactions with rfl | rfl <;> rfl
  have queryless : ¬ (phase = .yesQuery ∨ phase = .noQuery) := by
    rcases transactions with rfl | rfl <;> decide
  obtain ⟨old,held,listed⟩ := phaseEntries_eq_some.mp found
  by_cases device : files.IsDevice ((stageDir.join name).join phase.file)
  · -- what is written there is read nowhere
    have same := Files.read_write_device written device
    refine changed.load_eq bound ?_ (absurd · queryless) (fun file _ => same _) rfl
    rw [found,phaseEntries_eq_some.mpr ⟨old,(same _).trans held,listed⟩]
    exact .refl _
  · have there : phaseEntries after (stageDir.join name) phase = .ok (some others) :=
      phaseEntries_eq_some.mpr ⟨text,Files.read_write written device,parsed⟩
    obtain ⟨place,⟨placed,-,-⟩,rfl⟩ := Files.write_eq_ok.mp written
    refine changed.load_eq bound ?_ (absurd · queryless) (fun file named => ?_) rfl
    · rw [found,there]
      exact .found wrapped
    · refine Files.read_replaced placed held (Files.taking_solid _ _) fun same => ?_
      exact unnamed ⟨file,place,named,same,Files.locate_of_read placed held⟩

/-- A file of no entries is as good as none: what can be loaded without it can be loaded with it. -/
theorem load_empty (bound : phase.roleSet?.isSome)
    (missing : files.exists? ((stageDir.join name).join phase.file) = false)
    (parsed : parse text = some (.list []))
    (written : files.write ((stageDir.join name).join phase.file) text = (.ok (),after))
    (reads : ∀ file, Names files (stageDir.join name) file →
      after.read ((stageDir.join name).join file) = files.read ((stageDir.join name).join file)) :
    load after stageDir name = load files stageDir name := by
  have absent := phaseEntries_missing missing
  have empty : phaseEntries after (stageDir.join name) phase = .ok (some []) :=
    phaseEntries_eq_some.mpr ⟨text,Files.read_write written (Files.plain_of_missing missing),parsed⟩
  refine (changed_of_write written).load_eq bound ?_ (fun _ => ?_) reads rfl
  · rw [absent,empty]
    exact .found .nil
  · rw [given,empty,given,absent]
    rfl

theorem load_created (bound : phase.roleSet?.isSome)
    (missing : files.exists? ((stageDir.join name).join phase.file) = false)
    (parsed : parse text = some (.list []))
    (written : files.write ((stageDir.join name).join phase.file) text = (.ok (),after))
    (loaded : load files stageDir name = .ok plan) : load after stageDir name = .ok plan := by
  refine (load_empty bound missing parsed written fun file named => ?_).trans loaded
  obtain ⟨given,read⟩ := read_of_load loaded named
  obtain ⟨place,⟨placed,-,-⟩,rfl⟩ := Files.write_eq_ok.mp written
  rw [read,Files.read_set placed missing (Files.taking_solid _ _) read]

theorem load_removed (bound : phase.roleSet?.isSome)
    (missing : files.exists? ((stageDir.join name).join phase.file) = false)
    (parsed : parse text = some (.list []))
    (written : files.write ((stageDir.join name).join phase.file) text = (.ok (),after))
    (unnamed : ¬ NamesFile after (stageDir.join name) ((stageDir.join name).join phase.file))
    (loaded : load after stageDir name = .ok plan) : load files stageDir name = .ok plan := by
  have absent := phaseEntries_missing missing
  have changed := changed_of_write written
  refine (load_empty bound missing parsed written fun file named => ?_).symm.trans loaded
  -- the file that is missing holds no entry, so what is named is named in both trees
  have named' : Names after (stageDir.join name) file := by
    obtain @⟨other,entries,entry,found,member,named⟩ := named
    have apart : other ≠ phase := by
      rintro rfl
      cases absent.symm.trans found
    exact .intro ((changed.others apart).trans found) member named
  obtain ⟨given,read⟩ := read_of_load loaded named'
  obtain ⟨place,⟨placed,-,-⟩,rfl⟩ := Files.write_eq_ok.mp written
  rw [read]
  have kept : files.Written (files.set place (Files.taking text (files.at? place))) place _ :=
    Files.written_set (Files.free_of_placeForWriting placed).1 (Files.taking_solid _ _)
  refine (kept.read_before read fun same => ?_).symm
  exact unnamed ⟨file,place,named',same,Files.locate_set_of_placeForWriting placed _⟩

end

end Scenario

end LedgerRehearsal
