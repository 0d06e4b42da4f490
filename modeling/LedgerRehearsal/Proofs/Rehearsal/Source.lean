import LedgerRehearsal.Proofs.InTurn
import LedgerRehearsal.Proofs.Only
import LedgerRehearsal.Proofs.Result
import LedgerRehearsal.Rehearsal

/-! What a rehearsal reads from the source tree: one artifact and one plan for each stage of the
target, in order, and the scenarios of a plan in the order of their manifest. -/
namespace LedgerRehearsal

theorem Artifact.stage_of_assembleStage [Diagnostics] {files : Files} {root : Path} {stage : String}
    {artifact : Artifact} (assembled : assembleStage files root stage = .ok artifact) :
    artifact.stage = stage := by
  unfold assembleStage at assembled
  dsimp only at assembled
  split at assembled
  · simp only [Except.bind_eq_ok] at assembled
    obtain ⟨document,-,operations,-,same⟩ := assembled
    cases same
    rfl
  · split at assembled
    · simp only [Except.bind_eq_ok] at assembled
      obtain ⟨document,-,templates,-,operations,-,same⟩ := assembled
      cases same
      rfl
    · cases assembled

theorem Artifact.stages_of_assemble [Diagnostics] {files : Files} {root : Path} {stages : List String}
    {artifacts : List Artifact} (assembled : assemble files root stages = .ok artifacts) :
    artifacts.map (·.stage) = stages := by
  have same : artifacts.map (·.stage) = stages.map id :=
    Except.map_eq_of_mapM assembled fun stage _ artifact made => stage_of_assembleStage made
  rwa [List.map_id] at same

namespace Rehearsal

section

variable [Diagnostics] {rehearsal : Rehearsal}

/-- Compiling a target reports, and comes to what assembling it comes to. -/
theorem result_compileTarget {files : Files} {root : Path} {target : Target} {events : List Event}
    {result : Except Failure (List Artifact)}
    (trace : Run.Trace (compileTarget files root target).run events result) :
    result = (Artifact.assemble files root target.stages).mapError .template := by
  obtain ⟨_,_,_,-,going,-⟩ := (Attempt.trace_lift_bind _ _ _ _).mp trace
  split at going
  · rename_i assembled
    obtain ⟨_,_,_,-,last,-⟩ := (Attempt.trace_lift_bind _ _ _ _).mp going
    obtain ⟨-,rfl⟩ := (Attempt.trace_pure _ _ _).mp last
    rw [assembled]
    rfl
  · rename_i failed
    obtain ⟨_,_,_,-,last,-⟩ := (Attempt.trace_lift_bind _ _ _ _).mp going
    obtain ⟨-,rfl⟩ := (Attempt.trace_throw _ _ _).mp last
    rw [failed]
    rfl

theorem play_compileTarget {σ : Type} (surroundings : Surroundings σ) (world : World σ)
    (files : Files) (root : Path) (target : Target) :
    (surroundings.play (compileTarget files root target).run world).1 =
      (Artifact.assemble files root target.stages).mapError .template :=
  result_compileTarget (Run.trace_history surroundings.answer _ world).1

theorem trace_compileTarget {files : Files} {root : Path} {target : Target} {events : List Event}
    {artifacts : List Artifact}
    (trace : Run.Trace (compileTarget files root target).run events (.ok artifacts)) :
    Artifact.assemble files root target.stages = .ok artifacts :=
  Except.mapError_eq_ok.mp (result_compileTarget trace).symm

theorem result_loadScenario {dir : Path} {name : String} {events : List Event}
    {result : Except Failure ScenarioPlan}
    (trace : Run.Trace (rehearsal.loadScenario dir name).run events result) :
    result = Scenario.load rehearsal.files dir name := by
  obtain ⟨_,_,_,-,going,-⟩ := (Attempt.trace_lift_bind _ _ _ _).mp trace
  split at going
  · rename_i loaded
    obtain ⟨-,rfl⟩ := (Attempt.trace_pure _ _ _).mp going
    exact loaded.symm
  · rename_i failed
    obtain ⟨_,_,_,-,last,-⟩ := (Attempt.trace_lift_bind _ _ _ _).mp going
    obtain ⟨-,rfl⟩ := (Attempt.trace_throw _ _ _).mp last
    exact failed.symm

/-- The scenarios of a plan are those that the manifest of its stage names, in the same order. -/
def FollowsManifest (rehearsal : Rehearsal) (plan : StagePlan) : Prop :=
  let dir := stageDir rehearsal.root plan.stage
  ∃ names, loadScenarioNames rehearsal.files dir = .ok names ∧
    names.mapM (Scenario.load rehearsal.files dir) = .ok plan.scenarios

theorem trace_loadStage {stage : String} {events : List Event} {plan : StagePlan}
    (trace : Run.Trace (rehearsal.loadStage stage).run events (.ok plan)) :
    plan.stage = stage ∧ rehearsal.FollowsManifest plan := by
  rcases (Attempt.trace_bind _ _ _ _).mp trace with ⟨_,-,same⟩ | ⟨_,names,_,listed,reading,-⟩
  · cases same
  rcases (Attempt.trace_bind _ _ _ _).mp reading with ⟨_,-,same⟩ | ⟨_,scenarios,_,loaded,noting,-⟩
  · cases same
  obtain ⟨_,_,_,-,last,-⟩ := (Attempt.trace_lift_bind _ _ _ _).mp noting
  obtain ⟨-,same⟩ := (Attempt.trace_pure _ _ _).mp last
  cases same
  obtain ⟨-,found⟩ := (Attempt.trace_ofExcept _ _ _).mp listed
  obtain ⟨logs,turns,-⟩ := (Attempt.trace_mapM _ _ _ _).mp loaded
  have read : names.mapM (Scenario.load rehearsal.files (stageDir rehearsal.root stage)) =
      .ok scenarios := turns.mapM_eq_ok fun name log plan traced => (result_loadScenario traced).symm
  exact ⟨rfl,names,Except.mapError_eq_ok.mp found.symm,read⟩

/-- What was read, in the order of the target. -/
structure Loaded (rehearsal : Rehearsal) (artifacts : List Artifact) (plans : List StagePlan) :
    Prop where
  assembled :
    Artifact.assemble rehearsal.files rehearsal.root rehearsal.target.stages = .ok artifacts
  artifacts_stages : artifacts.map (·.stage) = rehearsal.target.stages
  plans_stages : plans.map (·.stage) = rehearsal.target.stages
  manifests : ∀ plan ∈ plans, rehearsal.FollowsManifest plan

theorem trace_load {events : List Event} {artifacts : List Artifact} {plans : List StagePlan}
    (trace : Run.Trace rehearsal.load.run events (.ok (artifacts,plans))) :
    Loaded rehearsal artifacts plans := by
  rcases (Attempt.trace_bind _ _ _ _).mp trace with ⟨_,-,same⟩ | ⟨_,_,_,compiled,reading,-⟩
  · cases same
  rcases (Attempt.trace_bind _ _ _ _).mp reading with ⟨_,-,same⟩ | ⟨_,_,_,loaded,last,-⟩
  · cases same
  obtain ⟨-,same⟩ := (Attempt.trace_pure _ _ _).mp last
  cases same
  obtain ⟨logs,turns,-⟩ := (Attempt.trace_mapM _ _ _ _).mp loaded
  have assembled := trace_compileTarget compiled
  refine ⟨assembled,Artifact.stages_of_assemble assembled,?_,fun plan member => ?_⟩
  · simpa using turns.map_values fun stage log plan traced => (trace_loadStage traced).1
  · obtain ⟨stage,log,traced⟩ := turns.of_mem_values member
    exact (trace_loadStage traced).2

theorem only_compileTarget {files : Files} {root : Path} {target : Target}
    (allowed : Effect → Prop) (notes : ∀ notice, allowed (.note notice)) :
    (compileTarget files root target).run.Only allowed := by
  have closed := Run.closed_only allowed
  have reported (notice : Notice) := Run.only_perform (notes notice)
  refine closed.attempt_bind (closed.attempt_notes reported) fun _ => ?_
  split
  · exact closed.attempt_bind (closed.attempt_lift (reported _)) fun _ => closed.attempt_pure _
  · exact closed.attempt_bind (closed.attempt_notes reported) fun _ => closed.attempt_throw _

/-- Loading a source tree only reports, so it touches neither the ledger nor the suffixes. -/
theorem only_load (allowed : Effect → Prop) (notes : ∀ notice, allowed (.note notice)) :
    rehearsal.load.run.Only allowed := by
  have closed := Run.closed_only allowed
  have reported (notice : Notice) := Run.only_perform (notes notice)
  unfold load
  refine closed.attempt_bind (only_compileTarget allowed notes)
    fun artifacts => closed.attempt_bind ?_ fun plans => closed.attempt_pure _
  refine closed.attempt_mapM fun stage => ?_
  unfold loadStage
  dsimp only
  refine closed.attempt_bind (closed.attempt_ofExcept _) fun names =>
    closed.attempt_bind ?_ fun _ => closed.attempt_bind (closed.attempt_lift (reported _))
      fun _ => closed.attempt_pure _
  refine closed.attempt_mapM fun name => ?_
  refine closed.attempt_bind (closed.attempt_notes reported) fun _ => ?_
  split
  · exact closed.attempt_pure _
  · exact closed.attempt_bind (closed.attempt_notes reported) fun _ => closed.attempt_throw _

end

/-- Work that begins when the source tree is read and the ledger is well. -/
def afterReading {α β : Type} (policy : PollPolicy) (source : Attempt Failure α)
    (work : α → Attempt Failure β) : Attempt Failure β := do
  let read ← source
  Attempt.mapError .ledger (waitUntilReady policy)
  work read

/-- The health of the ledger is the first thing that is asked for, and the work comes after it. -/
theorem trace_afterReading {α β : Type} {policy : PollPolicy} {source : Attempt Failure α}
    {work : α → Attempt Failure β} {events : List Event} {result : Except Failure β}
    (trace : Run.Trace (afterReading policy source work).run events result) :
    (∃ failure, Run.Trace source.run events (.error failure) ∧ result = .error failure) ∨
    ∃ reading read waiting ready rest,
      Run.Trace source.run reading (.ok read) ∧
      Run.Trace (waitUntilReady policy).run waiting ready ∧
      events = reading ++ (waiting ++ rest) ∧
      match ready with
      | .error error => rest = [] ∧ result = .error (.ledger error)
      | .ok _ => Run.Trace (work read).run rest result := by
  rcases (Attempt.trace_bind _ _ _ _).mp trace with
    ⟨failure,failed,rfl⟩ | ⟨reading,read,_,loaded,going,rfl⟩
  · exact .inl ⟨failure,failed,rfl⟩
  rcases (Attempt.trace_mapError_bind _ _ _ _ _).mp going with
    ⟨error,waited,rfl⟩ | ⟨waiting,_,rest,waited,working,rfl⟩
  · exact .inr ⟨reading,read,_,.error error,[],loaded,waited,by simp,rfl,rfl⟩
  · exact .inr ⟨reading,read,waiting,.ok (),rest,loaded,waited,rfl,working⟩

theorem onlyNotes_of_only {α : Type} {run : Run α}
    (only : ∀ allowed : Effect → Prop, (∀ notice, allowed (.note notice)) → run.Only allowed)
    {events : List Event} {result : α} (trace : Run.Trace run events result) :
    OnlyNotes events := by
  intro ⟨effect,answer⟩ member
  obtain ⟨notice,rfl⟩ := (only (fun effect => ∃ notice, effect = .note notice)
    fun notice => ⟨notice,rfl⟩).of_mem trace member
  exact ⟨notice,rfl⟩

end Rehearsal

end LedgerRehearsal
