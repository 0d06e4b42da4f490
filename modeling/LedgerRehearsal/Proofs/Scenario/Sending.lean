import LedgerRehearsal.Proofs.Scenario.Order
import LedgerRehearsal.Proofs.Sending

/-! What a scenario sends to the ledger: its plan, phase by phase, up to where the run ends. -/
namespace LedgerRehearsal

open Json

namespace ScenarioPlan

/-- A transaction of the root key, which waits for it. -/
def privilegedSends (root : Key) (transaction : Transaction) : Sent :=
  .transaction root.account transaction.toValue true

/-- What a phase sends, by the keys of the plan. -/
def phaseSends (plan : ScenarioPlan) (root : Key) : Phase → List Sent
  | .prepare => plan.prepare.toList.map (privilegedSends root)
  | .yesQuery => (plan.roles.yes.zip plan.yes).map fun (key,query) => .query key.account query
  | .noQuery => (plan.roles.no.zip plan.no).map fun (key,query) => .query key.account query
  | .yesTransaction => (plan.roles.tyes.zip plan.tyes).map fun (key,entry) =>
    .transaction key.account entry.toValue false
  | .noTransaction => (plan.roles.tno.zip plan.tno).map fun (key,entry) =>
    .transaction key.account entry.toValue false
  | .cleanup => plan.clean.toList.map (privilegedSends root)

def sends (plan : ScenarioPlan) (root : Key) : List Sent := Phase.all.flatMap (plan.phaseSends root)

end ScenarioPlan

theorem sent_eq_actions (events : List Event) :
    sent events = (actions events).filterMap Exchange.sent? := by
  rw [sent,actions,List.filterMap_filter]
  refine congrArg (fun f => (exchanges events).filterMap f) (funext fun exchange => ?_)
  obtain ⟨request,reply⟩ := exchange
  cases request <;> rfl

theorem LookedUpByTurns.sends {tx : TxId} {first second : Connection} {lookups : List Exchange}
    (turns : LookedUpByTurns tx first second lookups) :
    lookups.filterMap Exchange.sent? = [] := by
  induction turns with
  | done => rfl
  | next found _ ih =>
    rw [List.filterMap_cons,ih]
    rfl

/-- However often a transaction is looked up, it is sent once. -/
theorem Monitor.sends_check (monitor : Monitor) (trial : Trial) :
    (check monitor trial).Sends
      [.transaction trial.submitter.key.account trial.transaction false] := by
  intro events verdict trace
  have checked := check_actions trace
  rw [sent_eq_actions]
  generalize actions events = exchanged at checked ⊢
  cases checked with
  | unsubmitted error => exact List.Sublist.refl _
  | submitted lookups =>
    rw [List.filterMap_cons,lookups.sends]
    exact List.Sublist.refl _

namespace ScenarioStage

variable (stage : ScenarioStage)

theorem sends_failWith (message : String) (fields : List (String × String))
    (error : ScenarioError) : (failWith message fields error).run.Sends [] :=
  Attempt.sends_silent_bind (Attempt.sends_note _ _ _) fun _ => Attempt.sends_throw _

theorem sends_submitAndWait (markers : List String) (connection : Connection)
    (transaction : Value) :
    (submitAndWait markers connection transaction).Sends
      [.transaction connection.key.account transaction true] := by
  intro events reason trace
  obtain ⟨reply,rfl,-⟩ := trace_submitAndWait trace
  exact List.Sublist.refl _

theorem sends_runPrivileged (phase : Phase) (transaction : Transaction) :
    (stage.runPrivileged phase transaction).run.Sends
      [ScenarioPlan.privilegedSends stage.rootKey transaction] := by
  refine Attempt.sends_silent_bind (Attempt.sends_lift (Run.sends_ask (.connect _)))
    fun opened => ?_
  split
  · exact (sends_failWith _ _ _).mono (List.nil_sublist _)
  · refine Attempt.sends_bind_silent (Attempt.sends_lift (sends_submitAndWait _ _ _))
      fun reason => ?_
    split
    · exact sends_failWith _ _ _
    · exact Attempt.sends_note _ _ _

theorem sends_queryAs (key : Key) (query : Value) :
    (stage.queryAs key query).run.Sends [.query key.account query] :=
  Attempt.sends_silent_bind (Attempt.sends_ask (.connect _)) fun _ => Attempt.sends_ask (.query _ _)

theorem sends_expectResults (key : Key) (query : Value) :
    (stage.expectResults key query).run.Sends [.query key.account query] := by
  refine Attempt.sends_bind_silent (Attempt.sends_lift (stage.sends_queryAs key query))
    fun reply => ?_
  split
  · exact sends_failWith _ _ _
  · exact sends_failWith _ _ _
  · exact Attempt.sends_pure _

theorem sends_expectNoResults (key : Key) (query : Value) :
    (stage.expectNoResults key query).run.Sends [.query key.account query] := by
  refine Attempt.sends_bind_silent (Attempt.sends_lift (stage.sends_queryAs key query))
    fun reply => ?_
  split
  · exact Attempt.sends_note _ _ _
  · exact Attempt.sends_pure _
  · exact sends_failWith _ _ _

theorem sends_runScoped (phase : Phase) (key : Key) (transaction : Transaction) :
    (stage.runScoped phase key transaction).run.Sends
      [.transaction key.account transaction.toValue false] := by
  refine Attempt.sends_silent_bind (Attempt.sends_lift ?_) fun opened => ?_
  · exact Attempt.sends_silent_bind (Attempt.sends_ask (.connect _))
      fun _ => Attempt.sends_ask (.connect _)
  · split
    · exact (sends_failWith _ _ _).mono (List.nil_sublist _)
    · exact Attempt.sends_bind_silent (Monitor.sends_check _ _) fun _ => Attempt.sends_note _ _ _

theorem sends_runPhase (plan : ScenarioPlan) (phase : Phase) :
    (stage.runPhase plan phase).run.Sends (plan.phaseSends stage.rootKey phase) := by
  have single (phase : Phase) (transaction? : Option Transaction) :
      (transaction?.forM (stage.runPrivileged phase)).run.Sends
        (transaction?.toList.map (ScenarioPlan.privilegedSends stage.rootKey)) := by
    cases transaction? with
    | none => exact Attempt.sends_pure ()
    | some transaction => exact stage.sends_runPrivileged phase transaction
  cases phase with
  | prepare | cleanup => exact single _ _
  | yesQuery =>
    exact Attempt.sends_forM_single fun (key,query) => stage.sends_expectResults key query
  | noQuery =>
    exact Attempt.sends_forM_single fun (key,query) => stage.sends_expectNoResults key query
  | yesTransaction | noTransaction =>
    exact Attempt.sends_forM_single fun (key,entry) => stage.sends_runScoped _ key entry

/-- A scenario sends what its phases send. -/
theorem sends_run (plan : ScenarioPlan) :
    (stage.run plan).run.Sends (plan.sends stage.rootKey) := by
  rw [run_eq_phases]
  refine Attempt.sends_silent_bind (Attempt.sends_note _ _ _) fun _ => ?_
  refine Attempt.sends_bind_silent (Attempt.sends_forM (stage.sends_runPhase plan)) fun _ => ?_
  exact Attempt.sends_silent_bind (Attempt.sends_note _ _ _) fun _ => Attempt.sends_pure _

end ScenarioStage

end LedgerRehearsal
