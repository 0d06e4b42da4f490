import LedgerRehearsal.Proofs.Monitor.Iteration
import LedgerRehearsal.Scenario.Run

/-! What one entry of a scenario asks the ledger, and what the replies make of it. -/
namespace LedgerRehearsal

open Json

/-- What a run does with its connections once they are open. -/
def actions (events : List Event) : List Exchange :=
  (exchanges events).filter fun exchange => match exchange with
    | ⟨.connect _,_⟩ => false
    | _ => true

@[simp] theorem actions_nil : actions [] = [] := rfl

@[simp] theorem actions_append (first rest : List Event) :
    actions (first ++ rest) = actions first ++ actions rest := by simp [actions]

@[simp] theorem actions_flatten (parts : List (List Event)) :
    actions parts.flatten = (parts.map actions).flatten := by
  induction parts with
  | nil => rfl
  | cons part parts ih => simp [ih]

@[simp] theorem actions_other (effect : Effect) (answer : effect.Answer) (events : List Event)
    (other : ∀ request, effect ≠ .ask request) :
    actions (⟨effect,answer⟩ :: events) = actions events := by simp [actions,other]

@[simp] theorem actions_connect (connection : Connection) (reply : Except LedgerError Unit)
    (events : List Event) :
    actions (⟨.ask (.connect connection),reply⟩ :: events) = actions events := by simp [actions]

@[simp] theorem actions_ask (request : Request) (reply : request.Reply) (events : List Event)
    (acts : ∀ connection, request ≠ .connect connection) :
    actions (⟨.ask request,reply⟩ :: events) = ⟨request,reply⟩ :: actions events := by
  cases request with
  | connect connection => exact absurd rfl (acts connection)
  | _ => rfl

theorem actions_silent {events : List Event} (silent : exchanges events = []) :
    actions events = [] := by rw [actions,silent,List.filter_nil]

/-- Lookups of one transaction, with one connection and the other by turns. -/
inductive LookedUpByTurns (tx : TxId) : Connection → Connection → List Exchange → Prop where
  | done {first second : Connection} : LookedUpByTurns tx first second []
  | next {first second : Connection} (found : Except LedgerError (List Value))
      {rest : List Exchange} :
      LookedUpByTurns tx second first rest →
      LookedUpByTurns tx first second (⟨.lookup first tx,found⟩ :: rest)

/-- Nothing that is done by turns is done for a connection to be opened. -/
theorem LookedUpByTurns.actions_eq {tx : TxId} {first second : Connection} {events : List Event}
    (turns : LookedUpByTurns tx first second (exchanges events)) : actions events = exchanges events := by
  rw [actions]
  generalize exchanges events = asked at turns
  induction turns with
  | done => rfl
  | next found _ ih => rw [List.filter_cons_of_pos rfl,ih]

namespace Monitor

variable {monitor : Monitor} {trial : Trial} {tx : TxId}

theorem Looked.byTurns {events : List Event} {verdict : Option Verdict}
    (looked : Looked monitor trial tx events verdict) :
    LookedUpByTurns tx trial.privileged trial.submitter (exchanges events) := by
  cases looked with
  | privilegedFailed => exact .next _ .done
  | submitterFailed | pending | judged => exact .next _ (.next _ .done)

/-- A transaction that is polled is looked up, and nothing else is done. -/
theorem poll_lookups {started : Duration} {attempts fuel : Nat} {seen : Option Nat}
    {events : List Event} {verdict : Verdict}
    (trace : Run.Trace (poll monitor trial tx started attempts seen fuel) events verdict) :
    LookedUpByTurns tx trial.privileged trial.submitter (exchanges events) := by
  induction fuel generalizing attempts seen events with
  | zero =>
    rw [(trace_poll_zero trace).1.exchanges_eq]
    exact .done
  | succ fuel ih =>
    cases trace_poll trace with
    | stopped => exact .done
    | decided looked notes => simpa [notes.exchanges_eq] using looked.byTurns
    | timedOut looked notes expired gaveUp =>
      simpa [notes.exchanges_eq,gaveUp.exchanges_eq] using looked.byTurns
    | stoppedAtRest looked notes early rested =>
      simpa [notes.exchanges_eq,rested.exchanges_eq] using looked.byTurns
    | again looked notes early rested later =>
      obtain _ | _ | own | _ := looked
      simpa [notes.exchanges_eq,rested.exchanges_eq] using LookedUpByTurns.next _ (.next _ (ih later))

/-- What a monitored transaction asks for, by the reply to its submission. -/
inductive Checked (trial : Trial) : List Exchange → Prop where
  | unsubmitted (error : LedgerError) :
      Checked trial [⟨.submit trial.submitter trial.transaction,.error error⟩]
  | submitted {tx : TxId} {lookups : List Exchange} :
      LookedUpByTurns tx trial.privileged trial.submitter lookups →
      Checked trial (⟨.submit trial.submitter trial.transaction,.ok tx⟩ :: lookups)

theorem check_actions {events : List Event} {verdict : Verdict}
    (trace : Run.Trace (check monitor trial) events verdict) : Checked trial (actions events) := by
  rcases trace_check trace with ⟨error,notes,rfl,reported,-⟩ | ⟨tx,started,later,rfl,polled⟩
  · simpa [actions_silent reported.exchanges_eq] using Checked.unsubmitted error
  · have turns := poll_lookups polled
    simpa [turns.actions_eq] using Checked.submitted turns

end Monitor

namespace ScenarioStage

variable {stage : ScenarioStage}

/-- Every connection that was asked for was opened. -/
def Opens (stage : ScenarioStage) (events : List Event) : Prop :=
  ∀ key error, ⟨.ask (.connect (stage.connection key)),.error error⟩ ∉ events

theorem opens_append {first rest : List Event} :
    stage.Opens (first ++ rest) ↔ stage.Opens first ∧ stage.Opens rest := by
  simp only [Opens,List.mem_append,not_or,forall_and]

theorem Opens.of_mem_flatten {logs : List (List Event)} (opens : stage.Opens logs.flatten)
    {log : List Event} (member : log ∈ logs) : stage.Opens log :=
  fun key error failed => opens key error (List.mem_flatten.mpr ⟨log,member,failed⟩)

theorem Opens.head {key : Key} {reply : Except LedgerError Unit} {events : List Event}
    (opens : stage.Opens (⟨.ask (.connect (stage.connection key)),reply⟩ :: events)) :
    reply = .ok () := by
  cases reply with
  | error error => exact absurd List.mem_cons_self (opens key error)
  | ok => rfl

theorem Opens.tail {event : Event} {events : List Event} (opens : stage.Opens (event :: events)) :
    stage.Opens events :=
  fun key error member => opens key error (List.mem_cons_of_mem event member)

theorem trace_failWith {message : String} {fields : List (String × String)}
    {error : ScenarioError} {events : List Event} {result : Except ScenarioError Unit}
    (trace : Run.Trace (failWith message fields error).run events result) :
    OnlyNotes events ∧ result = .error error := by
  obtain ⟨notes,_,_,noted,thrown,rfl⟩ := (Attempt.trace_lift_bind _ _ _ _).mp trace
  obtain ⟨rfl,rfl⟩ := (Attempt.trace_throw _ _ _).mp thrown
  simpa using Run.trace_note noted

/-- Why a transaction that was waited for failed, if it did. -/
def failureOf (markers : List String) : Except LedgerError Value → Option String
  | .error error => some error.message
  | .ok record => errorMarker markers record

/-- What the reply to a transaction of the root key means. -/
def privilegedResult (markers : List String) (phase : Phase) (transaction : Value)
    (reply : Except LedgerError Value) : Except ScenarioError Unit :=
  match failureOf markers reply with
  | some reason => .error (.privilegedTransactionFailed phase reason transaction.canonicalText)
  | none => .ok ()

/-- What the reply to a query that has to find something means. -/
def wantedResult (query : Value) : Except LedgerError (List Value) → Except ScenarioError Unit
  | .error error => .error (.transport .yesQuery error.message query.canonicalText)
  | .ok [] => .error (.emptyQueryResult .yesQuery query.canonicalText)
  | .ok (_ :: _) => .ok ()

/-- What the reply to a query that has to find nothing means. -/
def unwantedResult (query : Value) : Except LedgerError (List Value) → Except ScenarioError Unit
  | .error _ | .ok [] => .ok ()
  | .ok (row :: rows) =>
    .error (.unexpectedQueryResult .noQuery (row :: rows).length query.canonicalText)

theorem trace_submitAndWait {markers : List String} {connection : Connection} {transaction : Value}
    {events : List Event} {reason : Option String}
    (trace : Run.Trace (submitAndWait markers connection transaction) events reason) :
    ∃ reply, events = [⟨.ask (.submitAndWait connection transaction),reply⟩] ∧
      reason = failureOf markers reply := by
  obtain ⟨reply,_,rfl,judged⟩ := (Run.trace_ask_bind _ _ _ _).mp trace
  refine ⟨reply,?_⟩
  split at judged
  all_goals
    obtain ⟨rfl,rfl⟩ := (Run.trace_pure _ _ _).mp judged
    exact ⟨rfl,rfl⟩

theorem trace_runPrivileged {phase : Phase} {transaction : Transaction} {events : List Event}
    {result : Except ScenarioError Unit}
    (trace : Run.Trace (stage.runPrivileged phase transaction).run events result)
    (opens : stage.Opens events) :
    ∃ reply, actions events = [⟨.submitAndWait stage.rootConnection transaction.toValue,reply⟩] ∧
      result = privilegedResult stage.monitor.markers phase transaction.toValue reply := by
  obtain ⟨_,opened,_,connected,going,rfl⟩ := (Attempt.trace_lift_bind _ _ _ _).mp trace
  obtain rfl := (Run.trace_perform _ _ _).mp connected
  obtain rfl := opens.head
  dsimp only at going
  obtain ⟨_,reason,_,submitted,judged,rfl⟩ := (Attempt.trace_lift_bind _ _ _ _).mp going
  obtain ⟨reply,rfl,rfl⟩ := trace_submitAndWait submitted
  refine ⟨reply,?_⟩
  split at judged
  · rename_i failed
    obtain ⟨notes,rfl⟩ := trace_failWith judged
    simp [actions_silent notes.exchanges_eq,privilegedResult,failed]
  · rename_i passed
    obtain ⟨notes,rfl⟩ := Attempt.trace_note judged
    simp [actions_silent notes.exchanges_eq,privilegedResult,passed]

/-- A connection that opens lets its query through. -/
theorem trace_queryAs {key : Key} {query : Value} {events : List Event}
    {result : Except LedgerError (List Value)}
    (trace : Run.Trace (stage.queryAs key query).run events result) (opens : stage.Opens events) :
    actions events = [⟨.query (stage.connection key) query,result⟩] := by
  rcases (Attempt.trace_bind _ _ _ _).mp trace with ⟨error,failed,-⟩ | ⟨_,_,_,opened,asked,rfl⟩
  · obtain rfl := (Attempt.trace_ask _ _ _).mp failed
    exact absurd List.mem_cons_self (opens key error)
  · obtain rfl := (Attempt.trace_ask _ _ _).mp opened
    obtain rfl := (Attempt.trace_ask _ _ _).mp asked
    rfl

theorem trace_expectResults {key : Key} {query : Value} {events : List Event}
    {result : Except ScenarioError Unit}
    (trace : Run.Trace (stage.expectResults key query).run events result)
    (opens : stage.Opens events) :
    ∃ reply, actions events = [⟨.query (stage.connection key) query,reply⟩] ∧
      result = wantedResult query reply := by
  obtain ⟨_,reply,_,asked,judged,rfl⟩ := (Attempt.trace_lift_bind _ _ _ _).mp trace
  have queried := trace_queryAs asked (opens_append.mp opens).1
  refine ⟨reply,?_⟩
  split at judged
  · obtain ⟨notes,rfl⟩ := trace_failWith judged
    simp [queried,actions_silent notes.exchanges_eq,wantedResult]
  · obtain ⟨notes,rfl⟩ := trace_failWith judged
    simp [queried,actions_silent notes.exchanges_eq,wantedResult]
  · obtain ⟨rfl,rfl⟩ := (Attempt.trace_pure _ _ _).mp judged
    simp [queried,wantedResult]

theorem trace_expectNoResults {key : Key} {query : Value} {events : List Event}
    {result : Except ScenarioError Unit}
    (trace : Run.Trace (stage.expectNoResults key query).run events result)
    (opens : stage.Opens events) :
    ∃ reply, actions events = [⟨.query (stage.connection key) query,reply⟩] ∧
      result = unwantedResult query reply := by
  obtain ⟨_,reply,_,asked,judged,rfl⟩ := (Attempt.trace_lift_bind _ _ _ _).mp trace
  have queried := trace_queryAs asked (opens_append.mp opens).1
  refine ⟨reply,?_⟩
  split at judged
  · obtain ⟨notes,rfl⟩ := Attempt.trace_note judged
    simp [queried,actions_silent notes.exchanges_eq,unwantedResult]
  · obtain ⟨rfl,rfl⟩ := (Attempt.trace_pure _ _ _).mp judged
    simp [queried,unwantedResult]
  · rename_i rows notEmpty
    obtain ⟨notes,rfl⟩ := trace_failWith judged
    obtain _ | ⟨row,rows⟩ := rows
    · exact absurd rfl notEmpty
    · simp [queried,actions_silent notes.exchanges_eq,unwantedResult]

/-- A transaction of a key, with what the phase expects of it. -/
def trial (stage : ScenarioStage) (phase : Phase) (key : Key) (transaction : Transaction) : Trial :=
  ⟨stage.rootConnection,stage.connection key,transaction.toValue,phase.expectsSuccess⟩

theorem trace_runScoped {phase : Phase} {key : Key} {transaction : Transaction}
    {events : List Event} {result : Except ScenarioError Unit}
    (trace : Run.Trace (stage.runScoped phase key transaction).run events result)
    (opens : stage.Opens events) :
    ∃ checked verdict,
      Run.Trace (stage.monitor.check (stage.trial phase key transaction)) checked verdict ∧
      actions events = actions checked ∧ result = verdict.map fun _ => () := by
  obtain ⟨_,opened,_,connected,going,rfl⟩ := (Attempt.trace_lift_bind _ _ _ _).mp trace
  rw [opens_append] at opens
  rcases (Attempt.trace_bind _ _ _ _).mp connected with
    ⟨error,failed,-⟩ | ⟨_,_,_,root,submitter,rfl⟩
  · obtain rfl := (Attempt.trace_ask _ _ _).mp failed
    exact absurd List.mem_cons_self (opens.1 stage.rootKey error)
  obtain rfl := (Attempt.trace_ask _ _ _).mp root
  obtain rfl := (Attempt.trace_ask _ _ _).mp submitter
  obtain rfl := opens.1.tail.head
  dsimp only at going
  rcases (Attempt.trace_bind _ _ _ _).mp going with
    ⟨error,checked,rfl⟩ | ⟨_,outcome,_,checked,last,rfl⟩
  · exact ⟨_,_,checked,by simp [rootConnection],rfl⟩
  · obtain ⟨notes,rfl⟩ := Attempt.trace_note last
    exact ⟨_,_,checked,by simp [rootConnection,actions_silent notes.exchanges_eq],rfl⟩

end ScenarioStage

end LedgerRehearsal
