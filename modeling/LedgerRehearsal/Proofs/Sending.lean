import LedgerRehearsal.Proofs.InTurn
import LedgerRehearsal.Proofs.Ledger.InMemory

/-! What a run sends to the ledger. A run keeps to a plan when it sends a part of it, in order, on
every path. Plans are put together like the runs that keep to them, and what a ledger in memory
records of such a run is a part of its plan. -/
namespace LedgerRehearsal

open Json

/-- What a ledger records: transactions, with whether the submitter waits, and queries. -/
inductive Sent where
  | transaction (identity : String) (value : Value) (waited : Bool)
  | query (identity : String) (value : Value)

def Request.sent? : Request → Option Sent
  | .submit connection value => some (.transaction connection.key.account value false)
  | .submitAndWait connection value => some (.transaction connection.key.account value true)
  | .query connection value => some (.query connection.key.account value)
  | .health | .createDatabase _ | .connect _ | .lookup .. => none

def Exchange.sent? (exchange : Exchange) : Option Sent := exchange.1.sent?

def sent (events : List Event) : List Sent := (exchanges events).filterMap Exchange.sent?

@[simp] theorem sent_nil : sent [] = [] := rfl

@[simp] theorem sent_append (first rest : List Event) :
    sent (first ++ rest) = sent first ++ sent rest := by
  simp [sent]

theorem sent_silent {events : List Event} (silent : exchanges events = []) : sent events = [] := by
  rw [sent,silent,List.filterMap_nil]

namespace Run

variable {α β : Type} {planned later : List Sent}

/-- On every path a part of the plan is sent, in the order of the plan. -/
def Sends (run : Run α) (planned : List Sent) : Prop :=
  ∀ events result, Trace run events result → (sent events).Sublist planned

theorem Sends.mono {run : Run α} {wider : List Sent} (sends : run.Sends planned)
    (within : planned.Sublist wider) : run.Sends wider :=
  fun events result trace => (sends events result trace).trans within

theorem sends_pure (value : α) : (pure value : Run α).Sends planned := by
  intro events result trace
  obtain ⟨rfl,-⟩ := (trace_pure _ _ _).mp trace
  exact List.nil_sublist _

theorem sends_perform {effect : Effect} (silent : ∀ request, effect ≠ .ask request) :
    (perform effect).Sends [] := by
  intro events answer trace
  obtain rfl := (trace_perform _ _ _).mp trace
  rw [sent,exchanges_other effect answer [] silent]
  exact List.Sublist.refl _

theorem sends_ask (request : Request) : (ask request).Sends request.sent?.toList := by
  intro events reply trace
  obtain rfl := (trace_perform (.ask request) events reply).mp trace
  rw [sent,exchanges_ask,List.filterMap_cons,Exchange.sent?]
  cases request.sent? <;> exact List.Sublist.refl _

theorem Sends.bind {run : Run α} {next : α → Run β} (head : run.Sends planned)
    (tail : ∀ value, (next value).Sends later) : (run >>= next).Sends (planned ++ later) := by
  intro events result trace
  obtain ⟨first,value,rest,before,after,rfl⟩ := (trace_bind _ _ _ _).mp trace
  rw [sent_append]
  exact (head first value before).append (tail value rest result after)

end Run

namespace Attempt

variable {ε δ α β : Type} {planned later : List Sent}

theorem sends_pure (value : α) : (pure value : Attempt ε α).run.Sends planned :=
  Run.sends_pure (Except.ok value)

theorem sends_throw (error : ε) : (throw error : Attempt ε α).run.Sends planned :=
  Run.sends_pure (Except.error error)

theorem sends_ask (request : Request) : (Attempt.ask request).run.Sends request.sent?.toList :=
  Run.sends_ask request

theorem sends_lift {run : Run α} (sends : run.Sends planned) :
    (ExceptT.lift run : Attempt ε α).run.Sends planned := by
  intro events result trace
  obtain ⟨value,inner,-⟩ := (trace_lift _ _ _).mp trace
  exact sends events value inner

theorem sends_note (severity : Severity) (message : String) (fields : List (String × String)) :
    (ExceptT.lift (Run.note severity message fields) : Attempt ε Unit).run.Sends [] :=
  sends_lift (Run.sends_perform nofun)

theorem sends_mapError {attempt : Attempt ε α} {f : ε → δ} (sends : attempt.run.Sends planned) :
    (attempt.mapError f).run.Sends planned := by
  intro events result trace
  obtain ⟨inner,before,-⟩ := (trace_mapError _ _ _ _).mp trace
  exact sends events inner before

/-- An attempt that fails has sent a part of the plan as well. -/
theorem sends_bind {attempt : Attempt ε α} {next : α → Attempt ε β}
    (head : attempt.run.Sends planned) (tail : ∀ value, (next value).run.Sends later) :
    (attempt >>= next).run.Sends (planned ++ later) := by
  rw [ExceptT.run_bind]
  refine head.bind fun outcome => ?_
  cases outcome with
  | error error => exact Run.sends_pure _
  | ok value => exact tail value

theorem sends_bind_silent {attempt : Attempt ε α} {next : α → Attempt ε β}
    (head : attempt.run.Sends planned) (tail : ∀ value, (next value).run.Sends []) :
    (attempt >>= next).run.Sends planned := by
  rw [← List.append_nil planned]
  exact sends_bind head tail

theorem sends_silent_bind {attempt : Attempt ε α} {next : α → Attempt ε β}
    (head : attempt.run.Sends []) (tail : ∀ value, (next value).run.Sends later) :
    (attempt >>= next).run.Sends later := sends_bind head tail

theorem sends_forM {attempt : α → Attempt ε Unit} {items : List α} {plan : α → List Sent}
    (each : ∀ item, (attempt item).run.Sends (plan item)) :
    (items.forM attempt).run.Sends (items.flatMap plan) := by
  induction items with
  | nil => exact sends_pure ()
  | cons item items ih =>
    rw [List.flatMap_cons]
    exact sends_bind (each item) fun _ => ih

theorem sends_forM_single {attempt : α → Attempt ε Unit} {items : List α} {message : α → Sent}
    (each : ∀ item, (attempt item).run.Sends [message item]) :
    (items.forM attempt).run.Sends (items.map message) := by
  rw [List.map_eq_flatMap]
  exact sends_forM each

theorem sends_mapM {attempt : α → Attempt ε β} {items : List α} {plan : α → List Sent}
    (each : ∀ item, (attempt item).run.Sends (plan item)) :
    (items.mapM attempt).run.Sends (items.flatMap plan) := by
  induction items with
  | nil => exact sends_pure []
  | cons item items ih =>
    rw [List.mapM_cons,List.flatMap_cons,← List.append_nil (items.flatMap plan)]
    exact sends_bind (each item) fun _ => sends_bind ih fun _ => sends_pure _

end Attempt

namespace InMemoryLedger

variable {rules : LedgerRules} {ledger final : InMemoryLedger}

/-- What a ledger records between two states is part of what was sent, in order. -/
structure Records (before after : InMemoryLedger) (planned : List Sent)
    (submitted : List Submission) (asked : List LedgerQuery) : Prop where
  submissions : after.submissions = before.submissions ++ submitted
  queries : after.queries = before.queries ++ asked
  submitted_planned : (submitted.map fun submission =>
    Sent.transaction submission.identity submission.transaction submission.waited).Sublist planned
  asked_planned : (asked.map fun asked => Sent.query asked.identity asked.query).Sublist planned

theorem submit_records (rules : LedgerRules) (ledger : InMemoryLedger) (connection : Connection)
    (transaction : Value) (waited : Bool) :
    ∃ submitted, Records ledger (ledger.submit rules connection transaction waited).2
      [.transaction connection.key.account transaction waited] submitted [] := by
  unfold submit
  split
  · exact ⟨[],by simp,by simp,by simp,by simp⟩
  · dsimp only
    split <;> exact ⟨[_],rfl,by simp [take,store],by simp [next],by simp⟩

theorem reply_records (rules : LedgerRules) (ledger : InMemoryLedger) (request : Request) :
    ∃ submitted asked,
      Records ledger (reply rules request ledger).2 request.sent?.toList submitted asked := by
  cases request with
  | createDatabase database =>
    refine ⟨[],[],?_⟩
    simp only [reply,createDatabase]
    split <;> exact ⟨by simp,by simp,by simp,by simp⟩
  | submit connection value | submitAndWait connection value =>
    obtain ⟨submitted,records⟩ := submit_records rules ledger connection value _
    exact ⟨submitted,[],records⟩
  | lookup connection tx =>
    obtain ⟨-,submissions,queries⟩ := @lookup_keeps rules ledger connection.key.account tx
    exact ⟨[],[],by simpa [reply] using submissions,by simpa [reply] using queries,by simp,by simp⟩
  | query => exact ⟨[],[_],by simp [reply,query],rfl,by simp,by simp [Request.sent?]⟩
  | health | connect =>
    exact ⟨[],[],by simp [reply,checkHealth],by simp [reply,checkHealth],by simp,by simp⟩

theorem follows_records {exchanged : List Exchange}
    (follows : Follows (reply rules) exchanged ledger final) :
    ∃ submitted asked,
      Records ledger final (exchanged.filterMap Exchange.sent?) submitted asked := by
  induction exchanged generalizing ledger with
  | nil =>
    cases follows
    exact ⟨[],[],by simp,by simp,by simp,by simp⟩
  | cons exchange exchanged ih =>
    obtain ⟨request,given⟩ := exchange
    obtain ⟨-,follows⟩ := follows
    obtain ⟨submitted,asked,first⟩ := reply_records rules ledger request
    obtain ⟨submitted',asked',rest⟩ := ih follows
    have whole : (⟨request,given⟩ :: exchanged).filterMap Exchange.sent? =
        request.sent?.toList ++ exchanged.filterMap Exchange.sent? := by
      rw [List.filterMap_cons,Exchange.sent?]
      cases request.sent? <;> rfl
    refine ⟨submitted ++ submitted',asked ++ asked',?_,?_,?_,?_⟩
    · rw [rest.submissions,first.submissions,List.append_assoc]
    · rw [rest.queries,first.queries,List.append_assoc]
    · rw [whole,List.map_append]
      exact first.submitted_planned.append rest.submitted_planned
    · rw [whole,List.map_append]
      exact first.asked_planned.append rest.asked_planned

end InMemoryLedger

end LedgerRehearsal
