import LedgerRehearsal.Proofs.Closed
import LedgerRehearsal.Proofs.Scenario.Order

/-! The parts of work on one database: reports, requests made with connections to it, and monitored
transactions. What holds of them, and of sequences whose parts it holds of, holds of a scenario. -/
namespace LedgerRehearsal

open Json

/-- The connection that a request is made with. -/
def Request.connection? : Request → Option Connection
  | health | createDatabase _ => none
  | connect connection | submit connection _ | submitAndWait connection _ | query connection _
  | lookup connection _ => some connection

/-- A property of reports, of requests made with connections to a database, and of what is put
together from them. -/
structure TalksTo (database : DatabaseId) (holds : (α : Type) → Run α → Prop) : Prop
    extends Run.Closed holds where
  note (severity : Severity) (message : String) (fields : List (String × String)) :
    holds Unit (Run.note severity message fields)
  ask {request : Request} {connection : Connection}
    (made : request.connection? = some connection) (on : connection.database = database) :
    holds request.Reply (Run.ask request)

/-- A property of all parts of the work on a database, and of what is put together from them. -/
structure WorksOn (database : DatabaseId) (monitor : Monitor)
    (holds : (α : Type) → Run α → Prop) : Prop extends TalksTo database holds where
  check {trial : Trial} (root : trial.privileged.database = database)
    (own : trial.submitter.database = database) : holds Verdict (monitor.check trial)

namespace TalksTo

variable {database : DatabaseId} {holds : (α : Type) → Run α → Prop}

theorem attempt_note {ε : Type} (talks : TalksTo database holds) (severity : Severity)
    (message : String) (fields : List (String × String)) :
    holds (Except ε Unit)
      (ExceptT.lift (Run.note severity message fields) : Attempt ε Unit).run :=
  talks.attempt_lift (talks.note severity message fields)

theorem attempt_ask (talks : TalksTo database holds) (request : Request) {connection : Connection}
    (made : request.connection? = some connection) (on : connection.database = database) :
    holds (Except LedgerError request.Answer) (Attempt.ask request).run := talks.ask made on

theorem failWith (talks : TalksTo database holds) (message : String)
    (fields : List (String × String)) (error : ScenarioError) :
    holds (Except ScenarioError Unit) (ScenarioStage.failWith message fields error).run :=
  talks.attempt_bind (talks.attempt_note _ _ _) fun _ => talks.attempt_throw error

theorem submitAndWait (talks : TalksTo database holds) {markers : List String}
    {connection : Connection} {transaction : Value} (on : connection.database = database) :
    holds (Option String) (ScenarioStage.submitAndWait markers connection transaction) := by
  unfold ScenarioStage.submitAndWait
  refine talks.bind (talks.ask rfl on) fun reply => ?_
  split <;> exact talks.pure _

end TalksTo

namespace ScenarioStage

variable {stage : ScenarioStage} {holds : (α : Type) → Run α → Prop}

theorem holds_runPrivileged (works : WorksOn stage.database stage.monitor holds) {phase : Phase}
    {transaction : Transaction} :
    holds (Except ScenarioError Unit) (stage.runPrivileged phase transaction).run := by
  unfold runPrivileged
  refine works.attempt_bind (works.attempt_lift (works.ask rfl rfl)) fun opened => ?_
  split
  · exact works.failWith _ _ _
  · refine works.attempt_bind (works.attempt_lift (works.submitAndWait rfl)) fun reason => ?_
    split
    · exact works.failWith _ _ _
    · exact works.attempt_note _ _ _

theorem holds_queryAs (works : WorksOn stage.database stage.monitor holds) {key : Key}
    {query : Value} :
    holds (Except LedgerError (List Value)) (stage.queryAs key query).run :=
  works.attempt_bind (works.attempt_ask (.connect _) rfl rfl)
    fun _ => works.attempt_ask (.query _ _) rfl rfl

theorem holds_expectResults (works : WorksOn stage.database stage.monitor holds) {key : Key}
    {query : Value} : holds (Except ScenarioError Unit) (stage.expectResults key query).run := by
  unfold expectResults
  refine works.attempt_bind (works.attempt_lift (holds_queryAs works)) fun reply => ?_
  split
  · exact works.failWith _ _ _
  · exact works.failWith _ _ _
  · exact works.attempt_pure _

theorem holds_expectNoResults (works : WorksOn stage.database stage.monitor holds) {key : Key}
    {query : Value} : holds (Except ScenarioError Unit) (stage.expectNoResults key query).run := by
  unfold expectNoResults
  refine works.attempt_bind (works.attempt_lift (holds_queryAs works)) fun reply => ?_
  split
  · exact works.attempt_note _ _ _
  · exact works.attempt_pure _
  · exact works.failWith _ _ _

theorem holds_runScoped (works : WorksOn stage.database stage.monitor holds) {phase : Phase}
    {key : Key} {transaction : Transaction} :
    holds (Except ScenarioError Unit) (stage.runScoped phase key transaction).run := by
  unfold runScoped
  refine works.attempt_bind (works.attempt_lift (works.attempt_bind
    (works.attempt_ask (.connect _) rfl rfl) fun _ => works.attempt_ask (.connect _) rfl rfl))
    fun opened => ?_
  split
  · exact works.failWith _ _ _
  · exact works.attempt_bind (works.check rfl rfl) fun _ => works.attempt_note _ _ _

theorem holds_runPhase (works : WorksOn stage.database stage.monitor holds) {plan : ScenarioPlan}
    {phase : Phase} : holds (Except ScenarioError Unit) (stage.runPhase plan phase).run := by
  have single (phase : Phase) (transaction? : Option Transaction) :
      holds (Except ScenarioError Unit)
        (transaction?.forM (stage.runPrivileged phase) : Step).run := by
    cases transaction? with
    | none => exact works.attempt_pure ()
    | some transaction => exact holds_runPrivileged works
  cases phase with
  | prepare | cleanup => exact single _ _
  | yesQuery => exact works.attempt_forM fun _ => holds_expectResults works
  | noQuery => exact works.attempt_forM fun _ => holds_expectNoResults works
  | yesTransaction | noTransaction => exact works.attempt_forM fun _ => holds_runScoped works

theorem holds_run (works : WorksOn stage.database stage.monitor holds) (plan : ScenarioPlan) :
    holds (Except ScenarioError ScenarioReport) (stage.run plan).run := by
  rw [run_eq_phases]
  refine works.attempt_bind (works.attempt_note _ _ _) fun _ => works.attempt_bind ?_ fun _ => ?_
  · exact works.attempt_forM fun phase => holds_runPhase works
  · exact works.attempt_bind (works.attempt_note _ _ _) fun _ => works.attempt_pure _

end ScenarioStage

end LedgerRehearsal
