import LedgerRehearsal.Proofs.Rehearsal.Deploy
import LedgerRehearsal.Proofs.Scenario.Sending

/-! What a deployment and a test send to the ledger: the transactions of the artifacts, as the root
account, and in a test what the scenarios of each stage send after them. -/
namespace LedgerRehearsal

open Json

namespace Rehearsal

variable {rehearsal : Rehearsal} {rules : LedgerRules} {suffix : Nat → String}

/-- What setting up a schema sends. -/
def schemaSends (rehearsal : Rehearsal) (artifacts : List Artifact) : List Sent :=
  artifacts.map fun artifact => .transaction rehearsal.rootKey.account artifact.toValue true

def stageSends (rehearsal : Rehearsal) (accumulated : List Artifact) (plan : StagePlan) :
    List Sent :=
  rehearsal.schemaSends accumulated ++
    plan.scenarios.flatMap fun scenario => scenario.sends rehearsal.rootKey

def testSends (rehearsal : Rehearsal) (artifacts : List Artifact) (plans : List StagePlan) :
    List Sent :=
  (steps artifacts plans).flatMap fun (accumulated,plan) => rehearsal.stageSends accumulated plan

theorem sends_applyArtifact (connection : Connection) (stage : String) (artifact : Artifact) :
    (rehearsal.applyArtifact connection stage artifact).run.Sends
      [.transaction connection.key.account artifact.toValue true] := by
  unfold applyArtifact
  dsimp only
  split
  · exact (Attempt.sends_note _ _ _).mono (List.nil_sublist _)
  · refine Attempt.sends_bind_silent
      (Attempt.sends_lift (ScenarioStage.sends_submitAndWait _ _ _)) fun reason => ?_
    split
    · exact Attempt.sends_note _ _ _
    · exact Attempt.sends_silent_bind (Attempt.sends_note _ _ _) fun _ => Attempt.sends_throw _

theorem sends_setUpSchema (database : DatabaseId) (stage : String) (artifacts : List Artifact) :
    (rehearsal.setUpSchema database stage artifacts).run.Sends (rehearsal.schemaSends artifacts) :=
  Attempt.sends_silent_bind (Attempt.sends_mapError (Attempt.sends_ask (.connect _)))
    fun _ => Attempt.sends_forM_single fun artifact => sends_applyArtifact _ stage artifact

theorem sends_testStage (accumulated : List Artifact) (plan : StagePlan) :
    (rehearsal.testStage accumulated plan).run.Sends (rehearsal.stageSends accumulated plan) := by
  refine Attempt.sends_silent_bind (Attempt.sends_lift (Run.sends_perform nofun)) fun given => ?_
  refine Attempt.sends_silent_bind (Attempt.sends_note _ _ _) fun _ => ?_
  refine Attempt.sends_silent_bind
    (Attempt.sends_mapError (Attempt.sends_ask (.createDatabase _))) fun _ => ?_
  refine Attempt.sends_bind (sends_setUpSchema _ _ _) fun _ => ?_
  refine Attempt.sends_bind_silent (Attempt.sends_mapM fun scenario => ?_) fun _ => ?_
  · exact Attempt.sends_mapError (ScenarioStage.sends_run _ scenario)
  · exact Attempt.sends_silent_bind (Attempt.sends_note _ _ _) fun _ => Attempt.sends_pure _

theorem sends_deployWork (name : String) (artifacts : List Artifact) :
    (rehearsal.deployWork name artifacts).run.Sends (rehearsal.schemaSends artifacts) := by
  refine Attempt.sends_silent_bind
    (Attempt.sends_mapError (Attempt.sends_ask (.createDatabase _))) fun _ => ?_
  refine Attempt.sends_bind_silent (sends_setUpSchema _ _ _) fun _ => ?_
  exact Attempt.sends_silent_bind (Attempt.sends_note _ _ _) fun _ => Attempt.sends_pure _

/-- Nothing is sent before the work, so what is sent is part of the plan for what was read. -/
theorem sent_afterReading {α β : Type} {policy : PollPolicy} {source : Attempt Failure α}
    {work : α → Attempt Failure β} {planned : α → List Sent}
    (quiet : ∀ events result, Run.Trace source.run events result → OnlyNotes events)
    (sends : ∀ read, (work read).run.Sends (planned read)) {events : List Event}
    {result : Except Failure β}
    (trace : Run.Trace (afterReading policy source work).run events result) :
    sent events = [] ∨ ∃ reading read,
      Run.Trace source.run reading (.ok read) ∧ (sent events).Sublist (planned read) := by
  rcases trace_afterReading trace with
    ⟨failure,failed,-⟩ | ⟨reading,read,waiting,ready,rest,loaded,waited,rfl,working⟩
  · exact .inl (sent_silent (quiet _ _ failed).exchanges_eq)
  have silent : sent waiting = [] :=
    filterMap_checks (exchanges_checks only_waitUntilReady waited) fun _ => rfl
  rw [sent_append,sent_append,sent_silent (quiet _ _ loaded).exchanges_eq,silent]
  cases ready with
  | error error =>
    obtain ⟨rfl,-⟩ := working
    exact .inl rfl
  | ok => exact .inr ⟨reading,read,loaded,sends read rest result working⟩

variable [Diagnostics]

/-- What a deployment or a test of the target may send. -/
inductive Planned (rehearsal : Rehearsal) : List Sent → Prop where
  | nothing : Planned rehearsal []
  | deployed {artifacts : List Artifact} :
      Artifact.assemble rehearsal.files rehearsal.root rehearsal.target.stages = .ok artifacts →
      Planned rehearsal (rehearsal.schemaSends artifacts)
  | tested {artifacts : List Artifact} {plans : List StagePlan} :
      Loaded rehearsal artifacts plans → Planned rehearsal (rehearsal.testSends artifacts plans)

theorem sent_deploy {name : String} {events : List Event} {result : Except Failure StageReport}
    (trace : Run.Trace (rehearsal.deploy name).run events result) :
    ∃ planned, rehearsal.Planned planned ∧ (sent events).Sublist planned := by
  rw [deploy_eq_afterReading] at trace
  rcases sent_afterReading (fun _ _ => onlyNotes_of_only only_compileTarget)
      (sends_deployWork name) trace with
    none | ⟨reading,artifacts,compiled,part⟩
  · exact ⟨[],.nothing,none ▸ List.Sublist.refl _⟩
  · exact ⟨_,.deployed (trace_compileTarget compiled),part⟩

theorem sent_test {events : List Event} {result : Except Failure (List StageReport)}
    (trace : Run.Trace rehearsal.test.run events result) :
    ∃ planned, rehearsal.Planned planned ∧ (sent events).Sublist planned := by
  rw [test_eq_afterReading] at trace
  have sends (read : List Artifact × List StagePlan) :
      ((steps read.1 read.2).mapM fun step => rehearsal.testStage step.1 step.2).run.Sends
        (rehearsal.testSends read.1 read.2) :=
    Attempt.sends_mapM fun step => sends_testStage step.1 step.2
  rcases sent_afterReading (fun _ _ => only_load_notes) sends trace with
    none | ⟨reading,⟨artifacts,plans⟩,loaded,part⟩
  · exact ⟨[],.nothing,none ▸ List.Sublist.refl _⟩
  · exact ⟨_,.tested (trace_load loaded),part⟩

/-- The world that a deployment or a test leaves behind, against a ledger in memory. -/
inductive Leaves (rehearsal : Rehearsal) (rules : LedgerRules) (suffix : Nat → String)
    (world : World InMemoryLedger) : World InMemoryLedger → Prop where
  | deployed (name : String) :
      Leaves rehearsal rules suffix world
        ((rules.inMemory suffix).play (rehearsal.deploy name).run world).2
  | tested :
      Leaves rehearsal rules suffix world
        ((rules.inMemory suffix).play rehearsal.test.run world).2

/-- What the ledger records of a run is part of what the run may send. -/
theorem records_planned {world final : World InMemoryLedger}
    (left : rehearsal.Leaves rules suffix world final) :
    ∃ planned submitted asked, rehearsal.Planned planned ∧
      InMemoryLedger.Records world.ledger final.ledger planned submitted asked := by
  have recorded {α : Type} {run : Run α}
      (sends : ∀ events result, Run.Trace run events result →
        ∃ planned, rehearsal.Planned planned ∧ (sent events).Sublist planned) :
      ∃ planned submitted asked, rehearsal.Planned planned ∧
        InMemoryLedger.Records world.ledger ((rules.inMemory suffix).play run world).2.ledger
          planned submitted asked := by
    obtain ⟨trace,follows⟩ := Run.trace_history (rules.inMemory suffix).answer run world
    obtain ⟨planned,plan,part⟩ := sends _ _ trace
    obtain ⟨submitted,asked,records⟩ := InMemoryLedger.follows_records (follows_exchanges follows)
    exact ⟨planned,submitted,asked,plan,records.submissions,records.queries,
      records.submitted_planned.trans part,records.asked_planned.trans part⟩
  cases left with
  | deployed name => exact recorded fun _ _ => sent_deploy
  | tested => exact recorded fun _ _ => sent_test

end Rehearsal

end LedgerRehearsal
