import LedgerRehearsal.Proofs.InTurn
import LedgerRehearsal.Proofs.Scenario.Database
import LedgerRehearsal.Rehearsal

/-! One stage of a rehearsal: the schema is set up in a new database, artifact by artifact, and then
the scenarios of the stage are run there. -/
namespace LedgerRehearsal

open Json

/-- Whether a stage contributes anything to the schema. -/
def Artifact.contributes (artifact : Artifact) : Bool := !artifact.operations.isEmpty

namespace Rehearsal

variable {rehearsal : Rehearsal} {database : DatabaseId}

def rootConnection (rehearsal : Rehearsal) (database : DatabaseId) : Connection :=
  ⟨database,rehearsal.rootKey⟩

def scenarioStage (rehearsal : Rehearsal) (database : DatabaseId) : ScenarioStage :=
  ⟨database,rehearsal.rootKey,rehearsal.monitor⟩

/-- What the reply to the transaction of an artifact means. -/
def schemaResult (markers : List String) (stage : String) (artifact : Artifact)
    (reply : Except LedgerError Value) : Except Failure Unit :=
  match ScenarioStage.failureOf markers reply with
  | some reason =>
    .error (.schemaSetup stage artifact.stage reason artifact.toValue.canonicalText)
  | none => .ok ()

/-- An artifact is submitted once, with the root key, and waited for. -/
inductive Applied (rehearsal : Rehearsal) (database : DatabaseId) (stage : String)
    (artifact : Artifact) : List Exchange → Except Failure Unit → Prop where
  | submitted (reply : Except LedgerError Value) :
      Applied rehearsal database stage artifact
        [⟨.submitAndWait (rehearsal.rootConnection database) artifact.toValue,reply⟩]
        (schemaResult rehearsal.markers stage artifact reply)

theorem trace_applyArtifact {stage : String} {artifact : Artifact} {events : List Event}
    {result : Except Failure Unit}
    (trace : Run.Trace
      (rehearsal.applyArtifact (rehearsal.rootConnection database) stage artifact).run events
      result) :
    if artifact.contributes then Applied rehearsal database stage artifact (exchanges events) result
    else exchanges events = [] ∧ result = .ok () := by
  unfold applyArtifact at trace
  dsimp only at trace
  split at trace
  · rename_i empty
    rw [if_neg (by simpa [Artifact.contributes] using empty)]
    obtain ⟨notes,rfl⟩ := Attempt.trace_note trace
    exact ⟨notes.exchanges_eq,rfl⟩
  · rename_i nonempty
    rw [if_pos (by simpa [Artifact.contributes] using nonempty)]
    obtain ⟨_,reason,_,submitted,judged,rfl⟩ := (Attempt.trace_lift_bind _ _ _ _).mp trace
    obtain ⟨reply,rfl,rfl⟩ := ScenarioStage.trace_submitAndWait submitted
    split at judged
    · rename_i passed
      obtain ⟨notes,rfl⟩ := Attempt.trace_note judged
      have same : schemaResult rehearsal.markers stage artifact reply = .ok () := by
        simp [schemaResult,passed]
      simpa [notes.exchanges_eq] using same ▸ Applied.submitted reply
    · rename_i reason failed
      obtain ⟨notes,_,_,noted,thrown,rfl⟩ := (Attempt.trace_lift_bind _ _ _ _).mp judged
      obtain ⟨rfl,rfl⟩ := (Attempt.trace_throw _ _ _).mp thrown
      have same : schemaResult rehearsal.markers stage artifact reply =
          .error (.schemaSetup stage artifact.stage reason artifact.toValue.canonicalText) := by
        simp [schemaResult,failed]
      simpa [(Run.trace_note noted).exchanges_eq] using same ▸ Applied.submitted reply

/-- The schema is set up by the artifacts that contribute to it, one after another. -/
theorem trace_setUpSchema {stage : String} {artifacts : List Artifact} {events : List Event}
    {result : Except Failure Unit}
    (trace : Run.Trace (rehearsal.setUpSchema database stage artifacts).run events result) :
    ∃ opened rest, events = ⟨.ask (.connect (rehearsal.rootConnection database)),opened⟩ :: rest ∧
      match opened with
      | .error error => rest = [] ∧ result = .error (.ledger error)
      | .ok _ => ∃ parts outcome,
        InTurn (Applied rehearsal database stage) (artifacts.filter Artifact.contributes)
          parts outcome ∧
        exchanges rest = parts.flatten ∧ result = outcome.map fun _ => () := by
  rcases (Attempt.trace_mapError_bind _ _ _ _ _).mp trace with
    ⟨error,asked,rfl⟩ | ⟨_,_,_,asked,applied,rfl⟩
  · obtain rfl := (Attempt.trace_ask _ _ _).mp asked
    exact ⟨.error error,[],rfl,rfl,rfl⟩
  · obtain rfl := (Attempt.trace_ask _ _ _).mp asked
    obtain ⟨logs,outcome,turns,rfl,rfl⟩ := (Attempt.trace_forM _ _ _ _).mp applied
    refine ⟨.ok (),logs.flatten,rfl,?_⟩
    have exchanged : InTurn (fun artifact log result =>
        if artifact.contributes then Applied rehearsal database stage artifact log result
        else log = [] ∧ result = .ok ()) artifacts (logs.map exchanges) outcome :=
      (turns.mapLog exchanges).imp fun artifact _ log _ result ⟨inner,trace,same⟩ =>
        same ▸ trace_applyArtifact trace
    obtain ⟨parts,whole,needed,flat,same⟩ := exchanged.filter Artifact.contributes
      fun artifact log result empty idle => by simpa [empty] using idle
    refine ⟨parts,whole,needed.imp fun artifact member log _ result applied => ?_,?_,same⟩
    · simpa [(List.mem_filter.mp member).2] using applied
    · rw [exchanges_flatten,flat]

/-- The exchanges of a scenario and what came of it. -/
def Played (rehearsal : Rehearsal) (database : DatabaseId) (plan : ScenarioPlan)
    (exchanged : List Exchange) (result : Except Failure ScenarioReport) : Prop :=
  ∃ events outcome, exchanges events = exchanged ∧ result = outcome.mapError .scenario ∧
    Run.Trace ((rehearsal.scenarioStage database).run plan).run events outcome

/-- A stage whose database could be created and opened. -/
inductive Staged (rehearsal : Rehearsal) (accumulated : List Artifact) (plan : StagePlan)
    (database : DatabaseId) : List Exchange → Except Failure StageReport → Prop where
  | unprepared {parts : List (List Exchange)} {failure : Failure} :
      InTurn (Applied rehearsal database plan.stage) (accumulated.filter Artifact.contributes)
        parts (.error failure) →
      Staged rehearsal accumulated plan database
        (⟨.createDatabase database,.ok ()⟩ ::
          ⟨.connect (rehearsal.rootConnection database),.ok ()⟩ :: parts.flatten)
        (.error failure)
  | prepared {parts scenarios : List (List Exchange)} {applied : List Unit}
      {outcome : Except Failure (List ScenarioReport)} :
      InTurn (Applied rehearsal database plan.stage) (accumulated.filter Artifact.contributes)
        parts (.ok applied) →
      InTurn (Played rehearsal database) plan.scenarios scenarios outcome →
      Staged rehearsal accumulated plan database
        (⟨.createDatabase database,.ok ()⟩ ::
          ⟨.connect (rehearsal.rootConnection database),.ok ()⟩ ::
          (parts.flatten ++ scenarios.flatten))
        (outcome.map fun reports => ⟨plan.stage,database,reports⟩)

/-- The database of a stage. -/
def databaseOf (rehearsal : Rehearsal) (stage suffix : String) : DatabaseId :=
  .make rehearsal.network s!"{stage}-{suffix}"

variable {holds : (α : Type) → Run α → Prop}

theorem holds_applyArtifact (talks : TalksTo database holds) {stage : String}
    {artifact : Artifact} :
    holds (Except Failure Unit)
      (rehearsal.applyArtifact (rehearsal.rootConnection database) stage artifact).run := by
  unfold applyArtifact
  dsimp only
  split
  · exact talks.attempt_note _ _ _
  · refine talks.attempt_bind (talks.attempt_lift (talks.submitAndWait rfl)) fun reason => ?_
    split
    · exact talks.attempt_note _ _ _
    · exact talks.attempt_bind (talks.attempt_note _ _ _) fun _ => talks.attempt_throw _

theorem holds_setUpSchema (talks : TalksTo database holds) {stage : String}
    {artifacts : List Artifact} :
    holds (Except Failure Unit) (rehearsal.setUpSchema database stage artifacts).run :=
  talks.attempt_bind (talks.attempt_mapError (talks.attempt_ask (.connect _) rfl rfl))
    fun _ => talks.attempt_forM fun _ => holds_applyArtifact talks

/-- Everything that a stage does in its database. -/
def stageWork (rehearsal : Rehearsal) (accumulated : List Artifact) (plan : StagePlan)
    (database : DatabaseId) : Attempt Failure StageReport := do
  rehearsal.setUpSchema database plan.stage accumulated
  let scenarios ← plan.scenarios.mapM fun scenario =>
    Attempt.mapError .scenario ((rehearsal.scenarioStage database).run scenario)
  ExceptT.lift <| Run.note .info "Stage passed"
    [("stage",plan.stage),("scenarios",toString scenarios.length)]
  return ⟨plan.stage,database,scenarios⟩

theorem holds_stageWork (works : WorksOn database rehearsal.monitor holds)
    {accumulated : List Artifact} {plan : StagePlan} :
    holds (Except Failure StageReport) (rehearsal.stageWork accumulated plan database).run := by
  have scenario (plan : ScenarioPlan) :
      holds (Except ScenarioError ScenarioReport)
        ((rehearsal.scenarioStage database).run plan).run :=
    ScenarioStage.holds_run works plan
  refine works.attempt_bind (holds_setUpSchema works.toTalksTo) fun _ => ?_
  refine works.attempt_bind ?_ fun _ => ?_
  · exact works.attempt_mapM fun plan => works.attempt_mapError (scenario plan)
  · exact works.attempt_bind (works.attempt_note _ _ _) fun _ => works.attempt_pure _

theorem within_stageWork {accumulated : List Artifact} {plan : StagePlan} :
    (rehearsal.stageWork accumulated plan database).run.Only (Effect.Within database) :=
  holds_stageWork worksOn_within

theorem trace_scenarios {plans : List ScenarioPlan} {events : List Event}
    {result : Except Failure (List ScenarioReport)}
    (trace : Run.Trace (plans.mapM fun plan =>
      Attempt.mapError .scenario ((rehearsal.scenarioStage database).run plan)).run events result) :
    ∃ parts, InTurn (Played rehearsal database) plans parts result ∧
      exchanges events = parts.flatten := by
  obtain ⟨logs,played,rfl⟩ := (Attempt.trace_mapM _ _ _ _).mp trace
  refine ⟨logs.map exchanges,(played.mapLog exchanges).imp ?_,exchanges_flatten logs⟩
  rintro plan _ log _ result ⟨inner,traced,rfl⟩
  obtain ⟨outcome,ran,same⟩ := (Attempt.trace_mapError _ _ _ _).mp traced
  exact ⟨inner,outcome,rfl,same,ran⟩

theorem trace_stageWork {accumulated : List Artifact} {plan : StagePlan} {events : List Event}
    {result : Except Failure StageReport}
    (trace : Run.Trace (rehearsal.stageWork accumulated plan database).run events result) :
    ∃ opened rest, events = ⟨.ask (.connect (rehearsal.rootConnection database)),opened⟩ :: rest ∧
      (opened = .ok () → Staged rehearsal accumulated plan database
        (⟨.createDatabase database,.ok ()⟩ :: exchanges events) result) := by
  rcases (Attempt.trace_bind _ _ _ _).mp trace with
    ⟨failure,failed,rfl⟩ | ⟨_,_,_,setUp,going,rfl⟩
  · obtain ⟨opened,rest,rfl,spec⟩ := trace_setUpSchema failed
    refine ⟨opened,rest,rfl,?_⟩
    rintro rfl
    obtain ⟨parts,error | _,turns,flat,same⟩ := spec
    · cases same
      rw [exchanges_ask,flat]
      exact .unprepared turns
    · contradiction
  · obtain ⟨opened,rest,rfl,spec⟩ := trace_setUpSchema setUp
    refine ⟨opened,_,rfl,?_⟩
    rintro rfl
    obtain ⟨parts,_ | applied,turns,flat,same⟩ := spec
    · contradiction
    rcases (Attempt.trace_bind _ _ _ _).mp going with
      ⟨failure,failed,rfl⟩ | ⟨_,reports,_,passed,ending,rfl⟩
    · obtain ⟨logs,played,all⟩ := trace_scenarios failed
      simpa [flat,all,Except.map] using Staged.prepared turns played
    · obtain ⟨logs,played,all⟩ := trace_scenarios passed
      obtain ⟨_,_,_,noted,last,rfl⟩ := (Attempt.trace_lift_bind _ _ _ _).mp ending
      obtain ⟨rfl,rfl⟩ := (Attempt.trace_pure _ _ _).mp last
      simpa [flat,all,(Run.trace_note noted).exchanges_eq,Except.map] using
        Staged.prepared turns played

/-- A stage names its database, creates it, and then works in it. -/
theorem trace_testStage {accumulated : List Artifact} {plan : StagePlan} {events : List Event}
    {result : Except Failure StageReport}
    (trace : Run.Trace (rehearsal.testStage accumulated plan).run events result) :
    ∃ suffix notes created rest, OnlyNotes notes ∧
      events = ⟨.freshSuffix,suffix⟩ :: (notes ++
        ⟨.ask (.createDatabase (rehearsal.databaseOf plan.stage suffix)),created⟩ :: rest) ∧
      match created with
      | .error error => rest = [] ∧ result = .error (.ledger error)
      | .ok _ => Run.Trace
        (rehearsal.stageWork accumulated plan (rehearsal.databaseOf plan.stage suffix)).run
        rest result := by
  obtain ⟨_,suffix,_,named,noting,rfl⟩ := (Attempt.trace_lift_bind _ _ _ _).mp trace
  obtain rfl := (Run.trace_perform _ _ _).mp named
  obtain ⟨notes,_,_,noted,creating,rfl⟩ := (Attempt.trace_lift_bind _ _ _ _).mp noting
  refine ⟨suffix,notes,?_⟩
  rcases (Attempt.trace_mapError_bind _ _ _ _ _).mp creating with
    ⟨error,asked,rfl⟩ | ⟨_,_,rest,asked,working,rfl⟩
  · obtain rfl := (Attempt.trace_ask _ _ _).mp asked
    exact ⟨.error error,[],Run.trace_note noted,rfl,rfl,rfl⟩
  · obtain rfl := (Attempt.trace_ask _ _ _).mp asked
    exact ⟨.ok (),rest,Run.trace_note noted,rfl,working⟩

theorem exchanges_opening {suffix : String} {notes rest : List Event} (reported : OnlyNotes notes)
    {created : Except LedgerError Unit} :
    exchanges (⟨.freshSuffix,suffix⟩ ::
      (notes ++ ⟨.ask (.createDatabase database),created⟩ :: rest)) =
        ⟨.createDatabase database,created⟩ :: exchanges rest := by
  simp [reported.exchanges_eq]

end Rehearsal

end LedgerRehearsal
