import LedgerRehearsal.Monitor
import LedgerRehearsal.Proofs.Trace

/-! What one iteration of polling can do. The cases are derived once from the loop; whatever is
said about monitored transactions follows from them by induction on the number of rounds left. -/
namespace LedgerRehearsal

open Json

namespace Trial

/-- The verdict on a request that failed. -/
def refusal (trial : Trial) (tx : Option TxId) (error : LedgerError) : Verdict :=
  if trial.expectSuccess then .error (.transport .yesTransaction error.message trial.payload)
  else .ok (.rejectedAsExpected tx error.message)

/-- The verdict on a record that shows, by what is expected, whether the submitter sees it and
which error it is marked with. -/
def verdict (trial : Trial) (markers : List String) (tx : TxId) (record : Value)
    (ownVisible : Bool) : Verdict :=
  match trial.expectSuccess, ownVisible, errorMarker markers record with
  | true, false, _ => .error (.insufficientOwnReadRights tx trial.payload)
  | true, true, some error => .error (.unexpectedTransactionError tx error trial.payload)
  | true, true, none => .ok (.committed tx record)
  | false, _, some error => .ok (.rejectedAsExpected (some tx) error)
  | false, _, none => .error (.missingExpectedError tx trial.payload)

end Trial

namespace Monitor

/-- What is reported when a wait goes on. -/
def waitingMessage : String := "Still waiting for transaction to commit"

/-- Reports of which none says that the wait goes on. -/
structure Aside (events : List Event) : Prop where
  notes : OnlyNotes events
  unannounced : timesGiven waitingMessage events = 0

theorem aside_nil : Aside [] := ⟨onlyNotes_nil,rfl⟩

theorem aside_note {notice : Notice} {events : List Event} (other : notice.message ≠ waitingMessage)
    (rest : Aside events) : Aside (⟨.note notice,()⟩ :: events) :=
  ⟨(onlyNotes_note _ _).mpr rest.notes,by simp [rest.unannounced,other]⟩

theorem Aside.exchanges_eq {events : List Event} (aside : Aside events) : exchanges events = [] :=
  aside.notes.exchanges_eq

theorem trace_onLedgerError {trial : Trial} {tx : Option TxId} {error : LedgerError}
    {events : List Event} {verdict : Verdict}
    (trace : Run.Trace (onLedgerError trial tx error) events verdict) :
    Aside events ∧ verdict = trial.refusal tx error := by
  unfold onLedgerError at trace
  split at trace
  all_goals
    rename_i expected
    simp only [Run.trace_note_bind,Run.trace_pure] at trace
    obtain ⟨_,rfl,rfl,rfl⟩ := trace
    exact ⟨aside_note (by simp [waitingMessage]) aside_nil,by simp [Trial.refusal,Trial.phase,expected]⟩

theorem trace_judgeRecord {markers : List String} {trial : Trial} {tx : TxId} {record : Value}
    {events : List Event} {verdict : Verdict}
    (trace : Run.Trace (judgeRecord markers trial tx record) events verdict) :
    Aside events ∧ verdict = trial.verdict markers tx record true := by
  unfold judgeRecord at trace
  split at trace
  all_goals
    rename_i marked expected
    simp only [Run.trace_note_bind,Run.trace_pure] at trace
  case h_3 =>
    obtain ⟨rfl,rfl⟩ := trace
    exact ⟨aside_nil,by simp [Trial.verdict,marked,expected]⟩
  all_goals
    obtain ⟨_,rfl,rfl,rfl⟩ := trace
    exact ⟨aside_note (by simp [waitingMessage]) aside_nil,by simp [Trial.verdict,marked,expected]⟩

theorem trace_judge {markers : List String} {trial : Trial} {tx : TxId} {record : Value}
    {ownVisible : Bool} {events : List Event} {verdict : Verdict}
    (trace : Run.Trace (judge markers trial tx record ownVisible) events verdict) :
    Aside events ∧ verdict = trial.verdict markers tx record ownVisible := by
  unfold judge at trace
  split at trace
  · rename_i visible
    simpa [visible] using trace_judgeRecord trace
  · rename_i hidden
    split at trace
    · rename_i expected
      simp only [Run.trace_note_bind,Run.trace_pure] at trace
      obtain ⟨_,rfl,rfl,rfl⟩ := trace
      exact ⟨aside_note (by simp [waitingMessage]) aside_nil,by simp [Trial.verdict,hidden,expected]⟩
    · rename_i unexpected
      obtain ⟨rest,rfl,judged⟩ := (Run.trace_note_bind _ _ _ _ _ _).mp trace
      obtain ⟨notes,rfl⟩ := trace_judgeRecord judged
      refine ⟨aside_note (by simp [waitingMessage]) notes,?_⟩
      simp only [Trial.verdict,Bool.eq_false_iff.mpr unexpected]
      cases errorMarker markers record <;> rfl

/-- The lookups of one round and what they decide. -/
inductive Looked (monitor : Monitor) (trial : Trial) (tx : TxId) :
    List Event → Option Verdict → Prop where
  | privilegedFailed (error : LedgerError) :
      Looked monitor trial tx [⟨.ask (.lookup trial.privileged tx),.error error⟩]
        (some (trial.refusal (some tx) error))
  | submitterFailed (records : List Value) (error : LedgerError) :
      Looked monitor trial tx
        [⟨.ask (.lookup trial.privileged tx),.ok records⟩,
          ⟨.ask (.lookup trial.submitter tx),.error error⟩]
        (some (trial.refusal (some tx) error))
  | pending (own : List Value) :
      Looked monitor trial tx
        [⟨.ask (.lookup trial.privileged tx),.ok []⟩,⟨.ask (.lookup trial.submitter tx),.ok own⟩]
        none
  | judged (record : Value) (more own : List Value) :
      Looked monitor trial tx
        [⟨.ask (.lookup trial.privileged tx),.ok (record :: more)⟩,
          ⟨.ask (.lookup trial.submitter tx),.ok own⟩]
        (some (trial.verdict monitor.markers tx record !own.isEmpty))

theorem trace_round {monitor : Monitor} {trial : Trial} {tx : TxId} {attempts : Nat}
    {events : List Event} {result : Option Verdict}
    (trace : Run.Trace (round monitor trial tx attempts) events result) :
    ∃ lookups notes, events = lookups ++ notes ∧ Aside notes ∧
      Looked monitor trial tx lookups result := by
  unfold round at trace
  obtain ⟨authoritative,_,rfl,looked⟩ := (Run.trace_ask_bind _ _ _ _).mp trace
  split at looked
  · rename_i error
    obtain ⟨notes,verdict,_,failed,last,rfl⟩ := (Run.trace_bind _ _ _ _).mp looked
    obtain ⟨rfl,rfl⟩ := (Run.trace_pure _ _ _).mp last
    obtain ⟨reported,rfl⟩ := trace_onLedgerError failed
    exact ⟨_,notes,by simp,reported,.privilegedFailed error⟩
  · rename_i records
    obtain ⟨own,_,rfl,compared⟩ := (Run.trace_ask_bind _ _ _ _).mp looked
    split at compared
    · rename_i error
      obtain ⟨notes,verdict,_,failed,last,rfl⟩ := (Run.trace_bind _ _ _ _).mp compared
      obtain ⟨rfl,rfl⟩ := (Run.trace_pure _ _ _).mp last
      obtain ⟨reported,rfl⟩ := trace_onLedgerError failed
      exact ⟨_,notes,by simp,reported,.submitterFailed records error⟩
    · rename_i own
      split at compared
      · obtain ⟨rfl,rfl⟩ := (Run.trace_pure _ _ _).mp compared
        exact ⟨_,[],by simp,aside_nil,.pending own⟩
      · rename_i record more
        obtain ⟨_,rfl,judging⟩ := (Run.trace_note_bind _ _ _ _ _ _).mp compared
        obtain ⟨notes,verdict,_,judged,last,rfl⟩ := (Run.trace_bind _ _ _ _).mp judging
        obtain ⟨rfl,rfl⟩ := (Run.trace_pure _ _ _).mp last
        obtain ⟨reported,rfl⟩ := trace_judge judged
        rw [List.append_nil]
        refine ⟨_,_ :: notes,rfl,aside_note ?_ reported,.judged record more own⟩
        simp [waitingMessage]

/-- How a rest between two rounds can end. -/
inductive Rested (policy : PollPolicy) : Option Nat → List Event → AfterRest → Prop where
  | unheard : Rested policy none [⟨.sleep policy.interval,()⟩] (.goOn none)
  | timeUp (version : Nat) :
      Rested policy (some version) [⟨.rest policy.interval version,.timeUp⟩] (.goOn (some version))
  | closed (version : Nat) :
      Rested policy (some version) [⟨.rest policy.interval version,.closed⟩] (.goOn none)
  | changed (version later : Nat) :
      Rested policy (some version)
        [⟨.rest policy.interval version,.changed later⟩,⟨.stopRequested,false⟩] (.goOn (some later))
  | stopped (version later : Nat) :
      Rested policy (some version)
        [⟨.rest policy.interval version,.changed later⟩,⟨.stopRequested,true⟩] .stop

theorem trace_rest {policy : PollPolicy} {seen : Option Nat} {events : List Event}
    {result : AfterRest} (trace : Run.Trace (rest policy seen) events result) :
    Rested policy seen events result := by
  unfold rest at trace
  split at trace
  · obtain ⟨_,_,rfl,last⟩ := (Run.trace_perform_bind _ _ _ _).mp trace
    obtain ⟨rfl,rfl⟩ := (Run.trace_pure _ _ _).mp last
    exact .unheard
  · rename_i version
    obtain ⟨wake,_,rfl,woken⟩ := (Run.trace_perform_bind _ _ _ _).mp trace
    split at woken
    · obtain ⟨rfl,rfl⟩ := (Run.trace_pure _ _ _).mp woken
      exact .timeUp version
    · obtain ⟨rfl,rfl⟩ := (Run.trace_pure _ _ _).mp woken
      exact .closed version
    · rename_i later
      obtain ⟨stop,_,rfl,last⟩ := (Run.trace_perform_bind _ _ _ _).mp woken
      split at last
      · rename_i stopped
        obtain ⟨rfl,rfl⟩ := (Run.trace_pure _ _ _).mp last
        obtain rfl : stop = true := stopped
        exact .stopped version later
      · rename_i goesOn
        obtain ⟨rfl,rfl⟩ := (Run.trace_pure _ _ _).mp last
        obtain rfl : stop = false := Bool.eq_false_iff.mpr goesOn
        exact .changed version later

theorem Rested.exchanges_eq {policy : PollPolicy} {seen : Option Nat} {events : List Event}
    {result : AfterRest} (rested : Rested policy seen events result) : exchanges events = [] := by
  cases rested <;> simp

/-- The cases of an iteration with `fuel` more to come. -/
inductive Iteration (monitor : Monitor) (trial : Trial) (tx : TxId) (started : Duration)
    (attempts : Nat) (seen : Option Nat) (fuel : Nat) : List Event → Verdict → Prop where
  | stopped :
      Iteration monitor trial tx started attempts seen fuel [⟨.stopRequested,true⟩]
        (.error (.cancelled tx))
  | decided {lookups notes : List Event} {verdict : Verdict} :
      Looked monitor trial tx lookups (some verdict) → OnlyNotes notes →
      timesGiven waitingMessage notes = 0 →
      Iteration monitor trial tx started attempts seen fuel
        (⟨.stopRequested,false⟩ :: (lookups ++ notes)) verdict
  | timedOut {lookups notes more : List Event} {time : Duration} :
      Looked monitor trial tx lookups none → OnlyNotes notes →
      monitor.policy.isOver (time.since started) = true → OnlyNotes more →
      timesGiven waitingMessage notes = (if monitor.policy.noticeDue (attempts + 1) then 1 else 0) →
      timesGiven waitingMessage more = 0 →
      Iteration monitor trial tx started attempts seen fuel
        (⟨.stopRequested,false⟩ :: (lookups ++ (notes ++ ⟨.now,time⟩ :: more)))
        (.error (.timedOut tx (attempts + 1) (time.since started)))
  | stoppedAtRest {lookups notes resting : List Event} {time : Duration} :
      Looked monitor trial tx lookups none → OnlyNotes notes →
      monitor.policy.isOver (time.since started) = false →
      Rested monitor.policy seen resting .stop →
      timesGiven waitingMessage notes = (if monitor.policy.noticeDue (attempts + 1) then 1 else 0) →
      Iteration monitor trial tx started attempts seen fuel
        (⟨.stopRequested,false⟩ :: (lookups ++ (notes ++ ⟨.now,time⟩ :: resting)))
        (.error (.cancelled tx))
  | again {lookups notes resting later : List Event} {time : Duration} {next : Option Nat}
      {verdict : Verdict} :
      Looked monitor trial tx lookups none → OnlyNotes notes →
      monitor.policy.isOver (time.since started) = false →
      Rested monitor.policy seen resting (.goOn next) →
      Run.Trace (poll monitor trial tx started (attempts + 1) next fuel) later verdict →
      timesGiven waitingMessage notes = (if monitor.policy.noticeDue (attempts + 1) then 1 else 0) →
      Iteration monitor trial tx started attempts seen fuel
        (⟨.stopRequested,false⟩ :: (lookups ++ (notes ++ ⟨.now,time⟩ :: (resting ++ later))))
        verdict

theorem trace_poll {monitor : Monitor} {trial : Trial} {tx : TxId} {started : Duration}
    {attempts fuel : Nat} {seen : Option Nat} {events : List Event} {verdict : Verdict}
    (trace : Run.Trace (poll monitor trial tx started attempts seen (fuel + 1)) events verdict) :
    Iteration monitor trial tx started attempts seen fuel events verdict := by
  unfold poll at trace
  obtain ⟨stop,_,rfl,going⟩ := (Run.trace_perform_bind _ _ _ _).mp trace
  split at going
  · rename_i stopped
    obtain ⟨rfl,rfl⟩ := (Run.trace_pure _ _ _).mp going
    obtain rfl : stop = true := stopped
    exact .stopped
  · rename_i goesOn
    obtain rfl : stop = false := Bool.eq_false_iff.mpr goesOn
    obtain ⟨_,result,_,looked,after,rfl⟩ := (Run.trace_bind _ _ _ _).mp going
    obtain ⟨lookups,notes,rfl,reported,round⟩ := trace_round looked
    split at after
    · obtain ⟨rfl,rfl⟩ := (Run.trace_pure _ _ _).mp after
      simpa using Iteration.decided round reported.notes reported.unannounced
    · obtain ⟨waiting,_,rfl,announced,timed,counted⟩ := Run.trace_note_if after
      obtain ⟨time,_,rfl,checked⟩ := (Run.trace_perform_bind .now _ _ _).mp timed
      have quiet := onlyNotes_append.mpr ⟨reported.notes,announced⟩
      have counted : timesGiven waitingMessage (notes ++ waiting) =
          if monitor.policy.noticeDue (attempts + 1) then 1 else 0 := by
        rw [timesGiven_append,reported.unannounced,Nat.zero_add]
        exact counted
      dsimp only at checked
      split at checked
      · rename_i expired
        obtain ⟨_,rfl,last⟩ := (Run.trace_note_bind _ _ _ _ _ _).mp checked
        obtain ⟨rfl,rfl⟩ := (Run.trace_pure _ _ _).mp last
        have gaveUp : Aside [⟨.note ⟨.error,"Gave up waiting for transaction",
            [("tx_id",tx),("attempts",toString (attempts + 1)),("transaction",trial.payload)]⟩,()⟩] :=
          aside_note (by simp [waitingMessage]) aside_nil
        simpa using Iteration.timedOut round quiet expired gaveUp.notes counted gaveUp.unannounced
      · rename_i early
        have early := Bool.eq_false_iff.mpr early
        obtain ⟨resting,woken,later,rested,next,rfl⟩ := (Run.trace_bind _ _ _ _).mp checked
        split at next
        · obtain ⟨rfl,rfl⟩ := (Run.trace_pure _ _ _).mp next
          simpa using Iteration.stoppedAtRest round quiet early (trace_rest rested) counted
        · simpa using Iteration.again round quiet early (trace_rest rested) next counted

/-- What is noted of a transaction that the ledger has taken. -/
def submittedNotice (trial : Trial) (tx : TxId) : Notice :=
  ⟨.debug,"Submitted transaction",[("tx_id",tx),("identity",trial.submitter.key.account)]⟩

/-- A transaction that cannot be submitted is not looked up. -/
theorem trace_check {monitor : Monitor} {trial : Trial} {events : List Event} {verdict : Verdict}
    (trace : Run.Trace (check monitor trial) events verdict) :
    (∃ error notes,
      events = ⟨.ask (.submit trial.submitter trial.transaction),.error error⟩ :: notes ∧
      Aside notes ∧ verdict = trial.refusal none error) ∨
    ∃ tx started later, events =
        ⟨.ask (.submit trial.submitter trial.transaction),.ok tx⟩ ::
          ⟨.note (submittedNotice trial tx),()⟩ :: ⟨.now,started⟩ :: later ∧
      Run.Trace (poll monitor trial tx started 0 (some 0) maxAttempts) later verdict := by
  unfold check at trace
  obtain ⟨reply,_,rfl,submitted⟩ := (Run.trace_ask_bind _ _ _ _).mp trace
  split at submitted
  · obtain ⟨notes,rfl⟩ := trace_onLedgerError submitted
    exact .inl ⟨_,_,rfl,notes,rfl⟩
  · obtain ⟨_,rfl,begun⟩ := (Run.trace_note_bind _ _ _ _ _ _).mp submitted
    obtain ⟨started,later,rfl,polled⟩ := (Run.trace_perform_bind .now _ _ _).mp begun
    exact .inr ⟨_,started,later,rfl,polled⟩

theorem trace_poll_zero {monitor : Monitor} {trial : Trial} {tx : TxId} {started : Duration}
    {attempts : Nat} {seen : Option Nat} {events : List Event} {verdict : Verdict}
    (trace : Run.Trace (poll monitor trial tx started attempts seen 0) events verdict) :
    Aside events ∧ verdict = .error (.timedOut tx attempts ⟨0⟩) := by
  obtain ⟨_,rfl,last⟩ := (Run.trace_note_bind _ _ _ _ _ _).mp trace
  obtain ⟨rfl,rfl⟩ := (Run.trace_pure _ _ _).mp last
  exact ⟨aside_note (by simp [waitingMessage]) aside_nil,rfl⟩

end Monitor

end LedgerRehearsal
