import LedgerRehearsal.Proofs.Monitor.Rounds

/-! The end of a wait. A wait ends with its last round: it has the verdict of that round if there is
one, a time-out if the time was over after it, and it was cancelled if neither is the case. -/
namespace LedgerRehearsal

namespace Monitor

variable {monitor : Monitor} {trial : Trial} {tx : TxId}

/-- The wait was over before there was a verdict. -/
def Abandoned (verdict : Verdict) : Prop :=
  ∃ tx, verdict = .error (.cancelled tx) ∨
    ∃ attempts waited, verdict = .error (.timedOut tx attempts waited)

/-- What a wait ends with by its last round. -/
inductive Settled (monitor : Monitor) (trial : Trial) : Option RoundReplies → Verdict → Prop where
  | abandoned {last : Option RoundReplies} {verdict : Verdict} (abandoned : Abandoned verdict)
      (undecided : ∀ replies ∈ last, replies.Undecided) : Settled monitor trial last verdict
  | decided {replies : RoundReplies} {verdict : Verdict} (tx : TxId) (complete : replies.Complete)
      (decides : replies.verdict? trial monitor.markers tx = some verdict) :
      Settled monitor trial (some replies) verdict

theorem poll_settled {started : Duration} {attempts fuel : Nat} {seen : Option Nat}
    {events : List Event} {verdict : Verdict}
    (trace : Run.Trace (poll monitor trial tx started attempts seen fuel) events verdict) :
    Settled monitor trial (roundsOf trial events).getLast? verdict := by
  have only {replies : RoundReplies} (undecided : replies.Undecided) :
      ∀ last ∈ some replies, last.Undecided := fun _ same => Option.some.inj same ▸ undecided
  have roundless : ∀ last ∈ (none : Option RoundReplies), last.Undecided :=
    fun last shown => absurd shown (Option.not_mem_none last)
  induction fuel generalizing attempts seen events with
  | zero =>
    obtain ⟨aside,rfl⟩ := trace_poll_zero trace
    rw [roundsOf_silent (lookupsOf_silent aside.exchanges_eq)]
    exact .abandoned ⟨tx,.inr ⟨_,_,rfl⟩⟩ roundless
  | succ fuel ih =>
    cases trace_poll trace with
    | stopped => exact .abandoned ⟨tx,.inl rfl⟩ roundless
    | decided looked notes =>
      obtain ⟨replies,rounds,-,complete,decides⟩ :=
        looked.last (lookupsOf_silent notes.exchanges_eq)
      rw [rounds]
      exact .decided tx complete decides
    | @timedOut _ _ _ time looked notes expired gaveUp =>
      obtain ⟨replies,rounds,-,complete,decides⟩ :=
        looked.last (lookupsOf_between notes time gaveUp.exchanges_eq)
      rw [rounds]
      have undecided := (RoundReplies.undecided_iff complete _ _ _).mpr decides
      exact .abandoned ⟨tx,.inr ⟨_,_,rfl⟩⟩ (only undecided)
    | @stoppedAtRest _ _ _ time looked notes early rested =>
      obtain ⟨replies,rounds,-,complete,decides⟩ :=
        looked.last (lookupsOf_between notes time rested.exchanges_eq)
      rw [rounds]
      have undecided := (RoundReplies.undecided_iff complete _ _ _).mpr decides
      exact .abandoned ⟨tx,.inl rfl⟩ (only undecided)
    | @again _ _ _ later time _ _ looked notes early rested next =>
      obtain ⟨replies,undecided,-,rounds⟩ := roundsOf_again looked notes time rested
      rw [rounds]
      have settled := ih next
      -- The round itself is the last one if the next iteration was stopped before its lookups.
      cases more : roundsOf trial later with
      | nil =>
        rw [more] at settled
        obtain ⟨gaveUp,-⟩ := settled
        exact .abandoned gaveUp (only undecided)
      | cons second rounds =>
        rw [more] at settled
        rwa [List.getLast?_cons_cons]

/-- A transaction that is taken in ends with its last round. -/
theorem check_settled {events : List Event} {verdict : Verdict}
    (trace : Run.Trace (check monitor trial) events verdict) :
    (roundsOf trial events = [] ∧ ∃ error, verdict = trial.refusal none error) ∨
      Settled monitor trial (roundsOf trial events).getLast? verdict := by
  rcases trace_check trace with ⟨error,notes,rfl,aside,rfl⟩ | ⟨tx,started,later,rfl,polled⟩
  · exact .inl ⟨roundsOf_refused _ _ error aside,error,rfl⟩
  · right
    rw [roundsOf_submitted]
    exact poll_settled polled

/-- The times that were read from the clock. -/
def readings (events : List Event) : List Duration :=
  events.filterMap fun event => match event with
    | ⟨.now,time⟩ => some time
    | _ => none

@[simp] theorem readings_append (first rest : List Event) :
    readings (first ++ rest) = readings first ++ readings rest := List.filterMap_append

@[simp] theorem readings_now (time : Duration) (events : List Event) :
    readings (⟨.now,time⟩ :: events) = time :: readings events := rfl

@[simp] theorem readings_other (effect : Effect) (answer : effect.Answer) (events : List Event)
    (other : effect ≠ .now) : readings (⟨effect,answer⟩ :: events) = readings events := by
  cases effect with
  | now => exact absurd rfl other
  | _ => rfl

theorem readings_notes {notes : List Event} (only : OnlyNotes notes) : readings notes = [] := by
  apply List.filterMap_eq_nil_iff.mpr
  intro event member
  obtain ⟨notice,rfl⟩ := only event member
  rfl

theorem Looked.readings_eq {lookups : List Event} {result : Option Verdict}
    (looked : Looked monitor trial tx lookups result) : readings lookups = [] := by
  cases looked <;> rfl

theorem Rested.readings_eq {policy : PollPolicy} {seen : Option Nat} {events : List Event}
    {result : AfterRest} (rested : Rested policy seen events result) : readings events = [] := by
  cases rested <;> rfl

/-- How long a transaction had been waited for when the clock was last read. -/
def waitedIn (events : List Event) : Duration :=
  match readings events with
  | [] => ⟨0⟩
  | started :: times => (times.getLastD started).since started

/-- What a wait ends with, by its last round, the number of its rounds, and the time that had
passed after the last one. -/
def lastWord (monitor : Monitor) (trial : Trial) (tx : TxId) (last : Option RoundReplies)
    (attempts : Nat) (waited : Duration) : Verdict :=
  match last with
  | none => .error (.cancelled tx)
  | some replies =>
    match replies.verdict? trial monitor.markers tx with
    | some verdict => verdict
    | none =>
      if monitor.policy.isOver waited then .error (.timedOut tx attempts waited)
      else .error (.cancelled tx)

/-- The clock is read at the end of a round. -/
theorem readings_of_roundless {started : Duration} {attempts fuel : Nat} {seen : Option Nat}
    {events : List Event} {verdict : Verdict}
    (trace : Run.Trace (poll monitor trial tx started attempts seen fuel) events verdict)
    (roundless : roundsOf trial events = []) : readings events = [] := by
  cases fuel with
  | zero => exact readings_notes (trace_poll_zero trace).1.notes
  | succ fuel =>
    cases trace_poll trace with
    | stopped => rfl
    | decided looked notes =>
      obtain ⟨replies,rounds,-⟩ := looked.last (lookupsOf_silent notes.exchanges_eq)
      rw [rounds] at roundless
      contradiction
    | timedOut looked | stoppedAtRest looked | again looked =>
      obtain _ | _ | own | _ := looked
      simp [roundsOf] at roundless

/-- While attempts can be counted, a wait ends with its last round. Nothing is known of the time
that was read before the first round, as it does not matter. -/
theorem poll_lastWord {started : Duration} {attempts fuel : Nat} {seen : Option Nat}
    {events : List Event} {verdict : Verdict}
    (trace : Run.Trace (poll monitor trial tx started attempts seen fuel) events verdict)
    (counted : (roundsOf trial events).length < fuel) (before : Duration) :
    verdict = monitor.lastWord trial tx (roundsOf trial events).getLast?
      (attempts + (roundsOf trial events).length)
      (((readings events).getLastD before).since started) := by
  induction fuel generalizing attempts seen events before with
  | zero => simp at counted
  | succ fuel ih =>
    cases trace_poll trace with
    | stopped => rfl
    | decided looked notes =>
      obtain ⟨replies,rounds,-,-,decides⟩ := looked.last (lookupsOf_silent notes.exchanges_eq)
      rw [rounds]
      simp [lastWord,decides]
    | @timedOut _ _ _ time looked notes expired gaveUp =>
      obtain ⟨replies,rounds,-,-,decides⟩ :=
        looked.last (lookupsOf_between notes time gaveUp.exchanges_eq)
      rw [rounds]
      simp [lastWord,decides,looked.readings_eq,readings_notes notes,readings_notes gaveUp,expired]
    | @stoppedAtRest _ _ _ time looked notes early rested =>
      obtain ⟨replies,rounds,-,-,decides⟩ :=
        looked.last (lookupsOf_between notes time rested.exchanges_eq)
      rw [rounds]
      simp [lastWord,decides,looked.readings_eq,readings_notes notes,rested.readings_eq,early]
    | @again _ _ _ later time _ _ looked notes early rested next =>
      obtain ⟨replies,undecided,-,rounds⟩ := roundsOf_again looked notes time rested
      rw [rounds] at counted ⊢
      have last := ih next (Nat.lt_of_succ_lt_succ counted) time
      simp only [readings_other _ _ _ (show Effect.stopRequested ≠ .now by simp),readings_append,
        readings_now,looked.readings_eq,readings_notes notes,rested.readings_eq,List.nil_append]
      -- The round itself is the last one if the next iteration was stopped before its lookups.
      cases more : roundsOf trial later with
      | nil =>
        rw [more] at last
        rw [readings_of_roundless next more]
        simpa [lastWord,undecided.verdict?_eq_none,early] using last
      | cons second rounds =>
        rw [more] at last
        have attempted : attempts + 1 + (second :: rounds).length =
            attempts + (replies :: second :: rounds).length := by
          simp only [List.length_cons]
          omega
        rw [last,attempted,List.getLast?_cons_cons,List.getLastD_cons]

/-- While attempts can be counted, a transaction that is taken in ends with its last round. -/
theorem check_lastWord {events : List Event} {verdict : Verdict}
    (trace : Run.Trace (check monitor trial) events verdict)
    (conversed : trial.Conversed (.ok tx) events)
    (counted : (roundsOf trial events).length < maxAttempts) :
    verdict = monitor.lastWord trial tx (roundsOf trial events).getLast?
      (roundsOf trial events).length (waitedIn events) := by
  obtain ⟨started,later,rfl,polled⟩ := trace_taken trace conversed
  rw [roundsOf_submitted] at counted ⊢
  rw [poll_lastWord polled counted started,Nat.zero_add]
  simp [waitedIn]

end Monitor

end LedgerRehearsal
