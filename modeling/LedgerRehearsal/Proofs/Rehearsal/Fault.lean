import LedgerRehearsal.Proofs.Rehearsal.Deploy

/-! Faults of a source tree. Every file that a rehearsal needs is read before the first request, so
a tree with a fault anywhere fails without a trace on the ledger. Of several faults the one that is
reported is the first of an assembly, in the order of the stages, and only when all stages can be
assembled the first of their manifests and scenarios. -/
namespace LedgerRehearsal

namespace Rehearsal

section

variable [Diagnostics] {rehearsal : Rehearsal}

/-- Why a stage cannot be assembled. -/
def assemblyFault? (rehearsal : Rehearsal) (stage : String) : Option Failure :=
  (errorOf? (Artifact.assembleStage rehearsal.files rehearsal.root stage)).map .template

def scenarioFault? (rehearsal : Rehearsal) (stage name : String) : Option Failure :=
  errorOf? (Scenario.load rehearsal.files (stageDir rehearsal.root stage) name)

/-- Why the scenarios of a stage cannot be loaded: for its manifest, or for the first scenario of
the manifest that fails. -/
def scenariosFault? (rehearsal : Rehearsal) (stage : String) : Option Failure :=
  match loadScenarioNames rehearsal.files (stageDir rehearsal.root stage) with
  | .error error => some (.settings error)
  | .ok names => names.findSome? (rehearsal.scenarioFault? stage)

/-- The first fault of the assembly. -/
def firstAssemblyFault? (rehearsal : Rehearsal) : Option Failure :=
  rehearsal.target.stages.findSome? rehearsal.assemblyFault?

/-- The fault that is reported. -/
def fault? (rehearsal : Rehearsal) : Option Failure :=
  rehearsal.firstAssemblyFault?.or (rehearsal.target.stages.findSome? rehearsal.scenariosFault?)

/-- Some stage cannot be assembled. -/
def Unassembled (rehearsal : Rehearsal) : Prop :=
  ∃ stage ∈ rehearsal.target.stages, ∃ error,
    Artifact.assembleStage rehearsal.files rehearsal.root stage = .error error

/-- Some file of the source tree that a test needs is not as it should be. -/
inductive Broken (rehearsal : Rehearsal) : Prop where
  | assembly : rehearsal.Unassembled → Broken rehearsal
  | manifest {stage : String} {error : SettingsError} :
      stage ∈ rehearsal.target.stages →
      loadScenarioNames rehearsal.files (stageDir rehearsal.root stage) = .error error →
      Broken rehearsal
  | scenario {stage name : String} {names : List String} {failure : Failure} :
      stage ∈ rehearsal.target.stages →
      loadScenarioNames rehearsal.files (stageDir rehearsal.root stage) = .ok names →
      name ∈ names →
      Scenario.load rehearsal.files (stageDir rehearsal.root stage) name = .error failure →
      Broken rehearsal

theorem firstAssemblyFault?_isSome_iff :
    rehearsal.firstAssemblyFault?.isSome ↔ rehearsal.Unassembled := by
  simp only [firstAssemblyFault?,List.findSome?_isSome_iff,assemblyFault?,Option.isSome_map,
    errorOf?_isSome_iff,Unassembled]

theorem scenariosFault?_isSome_iff {stage : String} :
    (rehearsal.scenariosFault? stage).isSome ↔
      (∃ error, loadScenarioNames rehearsal.files (stageDir rehearsal.root stage) =
        .error error) ∨
      ∃ names, loadScenarioNames rehearsal.files (stageDir rehearsal.root stage) = .ok names ∧
        ∃ name ∈ names, ∃ failure,
          Scenario.load rehearsal.files (stageDir rehearsal.root stage) name = .error failure := by
  unfold scenariosFault?
  cases loadScenarioNames rehearsal.files (stageDir rehearsal.root stage) with
  | error error => simp
  | ok names => simp [List.findSome?_isSome_iff,scenarioFault?,errorOf?_isSome_iff]

/-- A fault is reported exactly when there is one. -/
theorem fault?_isSome_iff : rehearsal.fault?.isSome ↔ rehearsal.Broken := by
  rw [fault?,Option.isSome_or,Bool.or_eq_true,firstAssemblyFault?_isSome_iff,
    List.findSome?_isSome_iff]
  constructor
  · rintro (unassembled | ⟨stage,member,fault⟩)
    · exact .assembly unassembled
    · rcases scenariosFault?_isSome_iff.mp fault with
        ⟨error,failed⟩ | ⟨names,listed,name,among,failure,failed⟩
      · exact .manifest member failed
      · exact .scenario member listed among failed
  · intro broken
    cases broken with
    | assembly unassembled => exact .inl unassembled
    | manifest member failed =>
      exact .inr ⟨_,member,scenariosFault?_isSome_iff.mpr (.inl ⟨_,failed⟩)⟩
    | scenario member listed among failed =>
      exact .inr ⟨_,member,scenariosFault?_isSome_iff.mpr (.inr ⟨_,listed,_,among,_,failed⟩)⟩

theorem errorOf?_compile {events : List Event} {result : Except Failure (List Artifact)}
    (trace : Run.Trace rehearsal.compile.run events result) :
    errorOf? result = rehearsal.firstAssemblyFault? := by
  have first : rehearsal.firstAssemblyFault? =
      (errorOf? (Artifact.assemble rehearsal.files rehearsal.root
        rehearsal.target.stages)).map .template := by
    rw [Artifact.assemble,errorOf?_mapM,List.map_findSome?]
    rfl
  rw [first,result_compileTarget trace]
  cases Artifact.assemble rehearsal.files rehearsal.root rehearsal.target.stages <;> rfl

/-- The scenarios of a manifest are loaded in its order, up to the first that has a fault. -/
theorem errorOf?_loadScenarios {stage : String} {names : List String} {events : List Event}
    {result : Except Failure (List ScenarioPlan)}
    (trace : Run.Trace
      (names.mapM (rehearsal.loadScenario (stageDir rehearsal.root stage))).run events result) :
    errorOf? result = names.findSome? (rehearsal.scenarioFault? stage) := by
  obtain ⟨logs,turns,-⟩ := (Attempt.trace_mapM _ _ _ _).mp trace
  exact turns.errorOf?_eq fun name log result traced =>
    congrArg errorOf? (result_loadScenario traced)

theorem errorOf?_loadStage {stage : String} {events : List Event}
    {result : Except Failure StagePlan}
    (trace : Run.Trace (rehearsal.loadStage stage).run events result) :
    errorOf? result = rehearsal.scenariosFault? stage := by
  unfold scenariosFault?
  rcases (Attempt.trace_bind _ _ _ _).mp trace with
    ⟨failure,listed,rfl⟩ | ⟨_,names,_,listed,loading,-⟩
  all_goals
    obtain ⟨-,found⟩ := (Attempt.trace_ofExcept _ _ _).mp listed
  · obtain ⟨error,failed,rfl⟩ := Except.mapError_eq_error.mp found.symm
    rw [failed]
    rfl
  · rw [Except.mapError_eq_ok.mp found.symm]
    rcases (Attempt.trace_bind _ _ _ _).mp loading with
      ⟨failure,failed,rfl⟩ | ⟨_,scenarios,_,passed,noting,-⟩
    · exact errorOf?_loadScenarios failed
    · obtain ⟨_,_,_,-,last,-⟩ := (Attempt.trace_lift_bind _ _ _ _).mp noting
      obtain ⟨-,rfl⟩ := (Attempt.trace_pure _ _ _).mp last
      exact errorOf?_loadScenarios passed

/-- Loading fails with the fault of the tree, and only with it. -/
theorem errorOf?_load {events : List Event}
    {result : Except Failure (List Artifact × List StagePlan)}
    (trace : Run.Trace rehearsal.load.run events result) :
    errorOf? result = rehearsal.fault? := by
  unfold fault?
  rcases (Attempt.trace_bind _ _ _ _).mp trace with
    ⟨failure,failed,rfl⟩ | ⟨_,artifacts,_,compiled,reading,-⟩
  · rw [← errorOf?_compile failed]
    rfl
  rw [← errorOf?_compile compiled,errorOf?_ok,Option.none_or]
  have loaded {events : List Event} {result : Except Failure (List StagePlan)}
      (trace : Run.Trace (rehearsal.target.stages.mapM rehearsal.loadStage).run events result) :
      errorOf? result = rehearsal.target.stages.findSome? rehearsal.scenariosFault? := by
    obtain ⟨logs,turns,-⟩ := (Attempt.trace_mapM _ _ _ _).mp trace
    exact turns.errorOf?_eq fun stage log result => errorOf?_loadStage
  rcases (Attempt.trace_bind _ _ _ _).mp reading with
    ⟨failure,failed,rfl⟩ | ⟨_,plans,_,passed,last,-⟩
  · exact loaded failed
  · obtain ⟨-,rfl⟩ := (Attempt.trace_pure _ _ _).mp last
    exact loaded passed

end

/-- Waiting for the ledger asks for its health at least once. -/
theorem exchanges_waitUntilReady {policy : PollPolicy} {events : List Event}
    {ready : Except LedgerError Unit}
    (trace : Run.Trace (waitUntilReady policy).run events ready) : exchanges events ≠ [] := by
  obtain ⟨fuel,more⟩ : ∃ fuel, maxAttempts = fuel + 1 := ⟨maxAttempts - 1,by decide⟩
  obtain ⟨started,rest,rfl,asking⟩ := (Run.trace_perform_bind .now _ _ _).mp trace
  rw [more,awaitHealth] at asking
  obtain ⟨reply,later,rfl,-⟩ := (Run.trace_ask_bind _ _ _ _).mp asking
  simp

/-- A run fails with the given failure; nothing was asked of the ledger, which is as before. -/
structure FailsUntouched {σ α : Type} (surroundings : Surroundings σ) (world : World σ)
    (attempt : Attempt Failure α) (failure : Failure) : Prop where
  outcome : (surroundings.play attempt.run world).1 = .error failure
  silent : exchanges (surroundings.history attempt.run world) = []
  ledger : (surroundings.play attempt.run world).2.ledger = world.ledger

theorem failsUntouched_of_notes {σ α : Type} {surroundings : Surroundings σ} {world : World σ}
    {attempt : Attempt Failure α} {failure : Failure}
    (outcome : (surroundings.play attempt.run world).1 = .error failure)
    (notes : OnlyNotes (surroundings.history attempt.run world)) :
    FailsUntouched surroundings world attempt failure where
  outcome := outcome
  silent := notes.exchanges_eq
  ledger := (notes.follows (Run.trace_history surroundings.answer attempt.run world).2).1

/-- Work on a tree whose reading has a known fault, or none. -/
theorem afterReading_fault {σ α β : Type} {source : Attempt Failure α}
    {work : α → Attempt Failure β} {policy : PollPolicy} {fault : Option Failure}
    (notes : ∀ events result, Run.Trace source.run events result → OnlyNotes events)
    (reported : ∀ events result, Run.Trace source.run events result → errorOf? result = fault)
    (surroundings : Surroundings σ) (world : World σ) :
    let attempt := afterReading policy source work
    (exchanges (surroundings.history attempt.run world) = [] ↔ fault.isSome) ∧
      (fault.isSome → ∃ failure, fault = some failure ∧
        FailsUntouched surroundings world attempt failure) := by
  intro attempt
  have trace := (Run.trace_history surroundings.answer attempt.run world).1
  rcases trace_afterReading trace with
    ⟨failure,failed,same⟩ | ⟨reading,read,waiting,ready,rest,passed,waited,whole,-⟩
  · have fails : FailsUntouched surroundings world attempt failure :=
      failsUntouched_of_notes same (notes _ _ failed)
    have known : fault = some failure := (reported _ _ failed).symm
    subst known
    exact ⟨⟨fun _ => rfl,fun _ => fails.silent⟩,fun _ => ⟨failure,rfl,fails⟩⟩
  · have known : fault = none := (reported _ _ passed).symm
    subst known
    have asked : exchanges (surroundings.history attempt.run world) ≠ [] := by
      rw [Surroundings.history,whole]
      simp [exchanges_waitUntilReady waited]
    exact ⟨⟨fun silent => absurd silent asked,nofun⟩,nofun⟩

/-- A test asks nothing of the ledger exactly when its tree is broken, and deploying exactly when
some stage cannot be assembled. It then fails with the first fault, an assembly before any manifest
or scenario, and leaves the ledger as it was, whatever the ledger is and whatever its state. -/
theorem broken_untouched [Diagnostics] {σ : Type} (rehearsal : Rehearsal) (surroundings : Surroundings σ)
    (world : World σ) :
    ((exchanges (surroundings.history rehearsal.test.run world) = [] ↔ rehearsal.Broken) ∧
      (rehearsal.Broken → ∃ failure, rehearsal.fault? = some failure ∧
        FailsUntouched surroundings world rehearsal.test failure)) ∧
    ∀ name,
      (exchanges (surroundings.history (rehearsal.deploy name).run world) = [] ↔
        rehearsal.Unassembled) ∧
      (rehearsal.Unassembled → ∃ failure, rehearsal.firstAssemblyFault? = some failure ∧
        FailsUntouched surroundings world (rehearsal.deploy name) failure) := by
  rw [← fault?_isSome_iff,← firstAssemblyFault?_isSome_iff,test_eq_afterReading]
  constructor
  · exact afterReading_fault (fun _ _ => only_load_notes) (fun _ _ => errorOf?_load)
      surroundings world
  · intro name
    rw [deploy_eq_afterReading]
    exact afterReading_fault (fun _ _ => onlyNotes_of_only only_compileTarget)
      (fun _ _ => errorOf?_compile) surroundings world

/-- The manifest of the first stage cannot be read, and the second stage is not there. -/
def twoFaults : Rehearsal where
  files := ⟨[(["base.json"],.text "[]"),(["base"],.directory),(["base","test.json"],.text "{}")],[],
    none⟩
  root := ⟨"."⟩
  target := ⟨"app",["base","more"]⟩
  network := "net"
  rootKey := ⟨"k","root"⟩
  policy := ⟨.ofMillis 100,10,none⟩
  markers := ["error"]

theorem twoFaults_untouched :
    twoFaults.Unassembled ∧ ∃ failure,
      twoFaults.fault? = some failure ∧ twoFaults.firstAssemblyFault? = some failure ∧
      FailsUntouched LedgerRules.plain.surroundings (.start .empty []) twoFaults.test failure ∧
      FailsUntouched LedgerRules.plain.surroundings (.start .empty []) (twoFaults.deploy "app")
        failure := by
  have absent : twoFaults.Unassembled := ⟨"more",by simp [twoFaults],_,rfl⟩
  obtain ⟨⟨-,tested⟩,deployed⟩ :=
    broken_untouched twoFaults LedgerRules.plain.surroundings (.start .empty [])
  obtain ⟨failure,first,fails⟩ := tested (.assembly absent)
  obtain ⟨other,assembly,failsToo⟩ := (deployed "app").2 absent
  have same : failure = other := by
    rw [fault?,assembly,Option.some_or] at first
    exact (Option.some.inj first).symm
  subst same
  exact ⟨absent,failure,first,assembly,fails,failsToo⟩

example : (twoFaults.scenariosFault? "base").isSome ∧
    twoFaults.fault? = some (.template (.resolution ⟨"./more/main.json"⟩
      "neither more.json nor more/main.json exists")) := by decide +kernel

end Rehearsal

end LedgerRehearsal
