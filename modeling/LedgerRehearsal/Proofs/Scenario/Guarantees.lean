import LedgerRehearsal.Proofs.Scenario.Order
import LedgerRehearsal.Proofs.Scenario.Rewriting

/-! What a plan that was loaded can be relied on for, and which failure is reported when there is
none: that of the first step that fails, the check of the counts being the last. -/
namespace LedgerRehearsal

open Json

namespace ScenarioPlan

/-- A phase has more or fewer keys than entries. -/
def unpaired (plan : ScenarioPlan) (phase : Phase) : Bool :=
  (plan.roles.forPhase phase).length ≠ plan.entries phase

/-- The phases that act with keys of their own. -/
def rolePhases : List Phase := [.yesQuery,.noQuery,.yesTransaction,.noTransaction]

def mismatch (plan : ScenarioPlan) (phase : Phase) : ScenarioError :=
  .roleCountMismatch plan.name phase (plan.roles.forPhase phase).length (plan.entries phase)

theorem errorOf?_checkPhase (plan : ScenarioPlan) (phase : Phase) :
    errorOf? (plan.checkPhase phase) =
      if phase.roleSet?.isSome ∧ plan.unpaired phase then some (plan.mismatch phase) else none := by
  unfold checkPhase unpaired
  cases phase.roleSet? with
  | none => rfl
  | some set =>
    by_cases same : (plan.roles.forPhase phase).length = plan.entries phase
    · simp [same]
    · simp [same,mismatch]

/-- The check of a plan fails at the first phase whose keys and entries are not equally many. -/
theorem errorOf?_check (plan : ScenarioPlan) :
    errorOf? plan.check = (rolePhases.find? plan.unpaired).map plan.mismatch := by
  rw [check,errorOf?_forM]
  simp only [Phase.all,rolePhases,List.findSome?_cons,List.findSome?_nil,errorOf?_checkPhase,
    List.find?_cons,List.find?_nil,Phase.roleSet?,Option.isSome]
  cases plan.unpaired .yesQuery <;> cases plan.unpaired .noQuery <;>
    cases plan.unpaired .yesTransaction <;> cases plan.unpaired .noTransaction <;> rfl

end ScenarioPlan

namespace Scenario

variable {files : Files} {dir stageDir : Path} {name : String} {plan : ScenarioPlan}

section

variable [Diagnostics]

/-- The steps of reading a scenario, each by the failure that it ends in, if it does. -/
def faults (files : Files) (dir : Path) : List (Option Failure) := [
  errorOf? (RoleSets.load files dir),
  errorOf? (loadPrivileged files dir .prepare),
  errorOf? (loadQueries files dir .yesQuery),
  errorOf? (loadQueries files dir .noQuery),
  errorOf? (loadTransactions files dir .yesTransaction),
  errorOf? (loadTransactions files dir .noTransaction),
  errorOf? (loadPrivileged files dir .cleanup)]

theorem errorOf?_read (files : Files) (stageDir : Path) (name : String) :
    errorOf? (read files stageDir name) = (faults files (stageDir.join name)).findSome? id :=
  errorOf?_bind fun _ => errorOf?_bind fun _ => errorOf?_bind fun _ => errorOf?_bind fun _ =>
    errorOf?_bind fun _ => errorOf?_bind fun _ => errorOf?_bind fun _ => rfl

/-- What a plan holds of the files of its scenario: all entries, in the order of the files. -/
structure Drawn (files : Files) (dir : Path) (plan : ScenarioPlan) : Prop where
  roles : RoleSets.load files dir = .ok plan.roles
  yes : ∃ entries, given files dir .yesQuery = .ok entries ∧ plan.yes = entries.map stripComments
  no : ∃ entries, given files dir .noQuery = .ok entries ∧ plan.no = entries.map stripComments
  tyes : ∃ entries, given files dir .yesTransaction = .ok entries ∧
    List.Forall₂ (fun entry transaction => loadEntry files dir entry = .ok transaction)
      entries plan.tyes
  tno : ∃ entries, given files dir .noTransaction = .ok entries ∧
    List.Forall₂ (fun entry transaction => loadEntry files dir entry = .ok transaction)
      entries plan.tno
  counted {phase : Phase} : phase.roleSet?.isSome →
    ∃ entries, given files dir phase = .ok entries ∧ plan.entries phase = entries.length
  expanded : ∀ transaction ∈ plan.prepare.toList ++ plan.tyes ++ plan.tno ++ plan.clean.toList,
    ∀ operation ∈ transaction, operation.isExpanded = true

theorem queries_of_load {phase : Phase} {queries : List Value}
    (loaded : loadQueries files dir phase = .ok queries) :
    ∃ entries, given files dir phase = .ok entries ∧ queries = entries.map stripComments := by
  rw [loadQueries_eq] at loaded
  obtain ⟨entries,found,rfl⟩ := Except.map_eq_ok.mp loaded
  exact ⟨entries,Except.mapError_eq_ok.mp found,rfl⟩

theorem transactions_of_load {phase : Phase} {transactions : List Transaction}
    (loaded : loadTransactions files dir phase = .ok transactions) :
    ∃ entries, given files dir phase = .ok entries ∧
      List.Forall₂ (fun entry transaction => loadEntry files dir entry = .ok transaction)
        entries transactions := by
  obtain ⟨entries,found,each⟩ := Except.bind_eq_ok.mp loaded
  have found := Except.mapError_eq_ok.mp found
  exact ⟨_,by rw [given,found]; rfl,Except.mapM_eq_ok.mp (Except.mapError_eq_ok.mp each)⟩

theorem Loaded.drawn (loaded : Loaded files dir plan) : Drawn files dir plan := by
  have yes := queries_of_load loaded.yes
  have no := queries_of_load loaded.no
  have tyes := transactions_of_load loaded.tyes
  have tno := transactions_of_load loaded.tno
  refine ⟨loaded.roles,yes,no,tyes,tno,fun {phase} bound => ?_,?_⟩
  · cases phase with
    | prepare | cleanup => contradiction
    | yesQuery =>
      obtain ⟨entries,found,same⟩ := yes
      exact ⟨entries,found,by rw [ScenarioPlan.entries,same,List.length_map]⟩
    | noQuery =>
      obtain ⟨entries,found,same⟩ := no
      exact ⟨entries,found,by rw [ScenarioPlan.entries,same,List.length_map]⟩
    | yesTransaction =>
      obtain ⟨entries,found,each⟩ := tyes
      exact ⟨entries,found,each.length_eq.symm⟩
    | noTransaction =>
      obtain ⟨entries,found,each⟩ := tno
      exact ⟨entries,found,each.length_eq.symm⟩
  · intro transaction member
    have normal : Normal transaction := by
      simp only [List.mem_append,Option.mem_toList] at member
      rcases member with ((prepared | among) | among) | cleaned
      · exact normal_loadPrivileged (loaded.prepare.trans (congrArg _ prepared))
      · exact normal_loadTransactions loaded.tyes transaction among
      · exact normal_loadTransactions loaded.tno transaction among
      · exact normal_loadPrivileged (loaded.clean.trans (congrArg _ cleaned))
    exact fun operation among => (normal operation among).2

/-- What is loaded of a scenario once everything in it was read. -/
theorem load_of_read (given : read files stageDir name = .ok plan) :
    load files stageDir name = match ScenarioPlan.rolePhases.find? plan.unpaired with
      | none => .ok plan
      | some phase => .error (.scenario (.roleCountMismatch name phase
          (plan.roles.forPhase phase).length (plan.entries phase))) := by
  have verdict := plan.errorOf?_check
  have named : plan.name = name := (loaded_of_read given).1
  rw [load,given]
  cases found : ScenarioPlan.rolePhases.find? plan.unpaired with
  | none =>
    cases checked : plan.check with
    | error error => simp [found,checked] at verdict
    | ok _ => simp only [bind,Except.bind,checked,Except.mapError]
  | some phase =>
    rw [found,Option.map_some,errorOf?_eq_some] at verdict
    simp only [bind,Except.bind,verdict,Except.mapError,ScenarioPlan.mismatch,named]

theorem load_guarantees (files : Files) (stageDir : Path) (name : String) :
    let dir := stageDir.join name
    (∀ plan, load files stageDir name = .ok plan → Drawn files dir plan ∧
      ∀ phase : Phase, phase.roleSet?.isSome →
        (plan.roles.forPhase phase).length = plan.entries phase) ∧
    (∀ failure, (faults files dir).findSome? id = some failure →
      load files stageDir name = .error failure) ∧
    ((faults files dir).findSome? id = none → ∃ plan, Drawn files dir plan ∧
      load files stageDir name = match ScenarioPlan.rolePhases.find? plan.unpaired with
        | none => .ok plan
        | some phase => .error (.scenario (.roleCountMismatch name phase
            (plan.roles.forPhase phase).length (plan.entries phase)))) ∧
    (∀ (phase : Phase) text after, phase.roleSet?.isSome → parse text = some (.list []) →
      files.exists? (dir.join phase.file) = false →
      files.write (dir.join phase.file) text = (.ok (),after) →
        (∀ plan, load files stageDir name = .ok plan → load after stageDir name = .ok plan) ∧
        (¬ NamesFile after dir (dir.join phase.file) →
          ∀ plan, load after stageDir name = .ok plan → load files stageDir name = .ok plan)) ∧
    ∀ (phase : Phase) entries others text after, phase = .yesTransaction ∨ phase = .noTransaction →
      phaseEntries files dir phase = .ok (some entries) → parse text = some (.list others) →
      List.Forall₂ Wrapped entries others → files.write (dir.join phase.file) text = (.ok (),after) →
      ¬ NamesFile files dir (dir.join phase.file) →
        load after stageDir name = load files stageDir name := by
  intro dir
  refine ⟨fun plan loaded => ?_,fun failure first => ?_,fun none => ?_,
    fun phase text after bound parsed missing written =>
      ⟨fun plan => load_created bound missing parsed written,fun unnamed plan =>
        load_removed bound missing parsed written unnamed⟩,
    fun phase entries others text after transactions found parsed wrapped written unnamed =>
      load_wrapped transactions found parsed wrapped written unnamed⟩
  · exact ⟨(loaded_of_load loaded).drawn,fun phase bound =>
      ScenarioPlan.paired (load_eq_ok.mp loaded).2 bound⟩
  · rw [← errorOf?_read,errorOf?_eq_some] at first
    rw [load,first]
    rfl
  · rw [← errorOf?_read] at none
    cases given : read files stageDir name with
    | error failure => simp [given] at none
    | ok plan => exact ⟨plan,(loaded_of_read given).2.drawn,load_of_read given⟩

end

/-- A scenario of one transaction, whose template is a file of code. -/
def oneTemplate : Files where
  entries := [
    (["s"],.directory),
    (["s","user.json"],.text "\x7b\"keys\":[[\"p\",\"a\"]],\"tyes\":0\x7d"),
    (["s","tyes.json"],.text "[\x7b\"code_expand\":\"f.clj\"\x7d]"),
    (["s","f.clj"],.text "(f)")]
  workingDirectory := []

theorem oneTemplate_names {file : String} (named : Names oneTemplate ⟨"s"⟩ file) :
    file = "f.clj" := by
  obtain @⟨phase,entries,entry,found,member,transaction,read,operation,among,params,brought⟩ := named
  have nothing (apart : phase ≠ .yesTransaction) : phaseEntries oneTemplate ⟨"s"⟩ phase = .ok none := by
    cases phase with
    | yesTransaction => exact absurd rfl apart
    | _ => decide +kernel
  by_cases same : phase = .yesTransaction
  · subst same
    have one : phaseEntries oneTemplate ⟨"s"⟩ .yesTransaction =
        .ok (some [.object [("code_expand",.string "f.clj")]]) := by decide +kernel
    cases found.symm.trans one
    obtain rfl := List.mem_singleton.mp member
    have operations : entryTransaction (.object [("code_expand",.string "f.clj")]) =
        .ok [⟨[],some (.ofFile "f.clj" [])⟩] := by decide +kernel
    cases read.symm.trans operations
    obtain rfl := List.mem_singleton.mp among
    cases brought
    rfl
  · cases found.symm.trans (nothing same)

theorem oneTemplate_wrapped :
    let wrapped := "[[\x7b\"code_expand\":\"f.clj\"\x7d]]"
    ∃ after, oneTemplate.write ⟨"s/tyes.json"⟩ wrapped = (.ok (),after) ∧
      load after ⟨""⟩ "s" = load oneTemplate ⟨""⟩ "s" := by
  intro wrapped
  obtain ⟨-,-,-,-,changes⟩ := load_guarantees oneTemplate ⟨""⟩ "s"
  refine ⟨oneTemplate.set ["s","tyes.json"] (.text wrapped),by decide +kernel,?_⟩
  have found : phaseEntries oneTemplate ⟨"s"⟩ .yesTransaction =
      .ok (some [.object [("code_expand",.string "f.clj")]]) := by decide +kernel
  refine changes .yesTransaction _ [.list [.object [("code_expand",.string "f.clj")]]] wrapped _
    (.inl rfl) found (by decide +kernel) (.cons (.alone nofun) .nil) (by decide +kernel) ?_
  rintro ⟨file,place,named,located,there⟩
  obtain rfl := oneTemplate_names named
  have apart : oneTemplate.locate ((Path.mk "s").join "f.clj") ≠
      oneTemplate.locate ((Path.mk "s").join "tyes.json") := by decide +kernel
  exact apart (located.trans there.symm)

/-- A scenario of one transaction, whose template is the file that it stands in. -/
def ownTemplate : Files where
  entries := [
    (["s"],.directory),
    (["s","user.json"],.text "\x7b\"keys\":[[\"p\",\"a\"]],\"tyes\":0\x7d"),
    (["s","tyes.json"],.text "[\x7b\"code_expand\":\"tyes.json\"\x7d]")]
  workingDirectory := []

/-- The entry alone in a list is told from the entry where the file is its template. -/
theorem ownTemplate_told :
    let entry : Value := .object [("code_expand",.string "tyes.json")]
    let after := ownTemplate.set ["s","tyes.json"] (.text "[[\x7b\"code_expand\":\"tyes.json\"\x7d]]")
    phaseEntries ownTemplate ⟨"s"⟩ .yesTransaction = .ok (some [entry]) ∧
      phaseEntries after ⟨"s"⟩ .yesTransaction = .ok (some [.list [entry]]) ∧
      (load ownTemplate ⟨""⟩ "s").map (·.tyes) =
        .ok [[⟨[],some (.verbatim "(str \"[\x7b\\\"code_expand\\\":\\\"tyes.json\\\"\x7d]\")")⟩]] ∧
      (load after ⟨""⟩ "s").map (·.tyes) =
        .ok [[⟨[],some (.verbatim "(str \"[[\x7b\\\"code_expand\\\":\\\"tyes.json\\\"\x7d]]\")")⟩]] ∧
      load after ⟨""⟩ "s" ≠ load ownTemplate ⟨""⟩ "s" := by
  decide +kernel

end Scenario

end LedgerRehearsal
