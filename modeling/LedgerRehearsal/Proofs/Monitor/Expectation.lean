import LedgerRehearsal.Proofs.Alike
import LedgerRehearsal.Proofs.Monitor.LastWord
import LedgerRehearsal.Proofs.Scenario.Entry

/-! What is expected of a transaction changes nothing but the verdict. Expected to be carried out or
to be refused, it is submitted and looked up in the same way at the same times; the verdict is
success for one expectation at most, and for neither when the wait was abandoned or a clean record
did not show to the submitter. -/
namespace LedgerRehearsal

open Json

/-- The same transaction with a given expectation. -/
def Trial.expecting (success : Bool) (trial : Trial) : Trial :=
  { trial with expectSuccess := success }

theorem roundsOf_expecting (success : Bool) (trial : Trial) (events : List Event) :
    roundsOf (trial.expecting success) events = roundsOf trial events := by
  unfold roundsOf
  induction lookupsOf events using RoundReplies.ofLookups.induct trial <;>
    simp_all [RoundReplies.ofLookups,Trial.expecting]

/-- What a trial asks for is the same with every expectation. -/
theorem Trial.Conversed.of_expecting {success : Bool} {trial : Trial}
    {submission : Except LedgerError TxId} {events : List Event}
    (conversed : (trial.expecting success).Conversed submission events) :
    trial.Conversed submission events := by
  obtain ⟨exchanged,complete,undecided,roundless⟩ := conversed
  rw [roundsOf_expecting] at exchanged complete undecided roundless
  exact ⟨exchanged,complete,undecided,roundless⟩

namespace Monitor

variable {monitor : Monitor} {trial : Trial} {tx : TxId}

/-- All notices but the one that the wait goes on. -/
def besideWaiting (notice : Notice) : Bool := notice.message ≠ waitingMessage

theorem besideWaiting_note {severity : Severity} {message : String}
    (fields : List (String × String)) (other : message ≠ waitingMessage) :
    besideWaiting ⟨severity,message,fields⟩ = true := decide_eq_true other

/-- Verdicts on a transaction that is expected to be carried out and on one that is expected to be
refused. -/
inductive Verdicts (trial : Trial) (markers : List String) : Verdict → Verdict → Prop where
  | cancelled (tx : TxId) : Verdicts trial markers (.error (.cancelled tx)) (.error (.cancelled tx))
  | timedOut (tx : TxId) (attempts : Nat) (waited : Duration) :
      Verdicts trial markers (.error (.timedOut tx attempts waited))
        (.error (.timedOut tx attempts waited))
  | refused (tx : Option TxId) (error : LedgerError) :
      Verdicts trial markers ((trial.expecting true).refusal tx error)
        ((trial.expecting false).refusal tx error)
  | judged (tx : TxId) (record : Value) (ownVisible : Bool) :
      Verdicts trial markers ((trial.expecting true).verdict markers tx record ownVisible)
        ((trial.expecting false).verdict markers tx record ownVisible)

theorem onLedgerError_alike (tx : Option TxId) (error : LedgerError) :
    Run.Alike besideWaiting (Verdicts trial monitor.markers)
      (onLedgerError (trial.expecting true) tx error)
      (onLedgerError (trial.expecting false) tx error) :=
  .left (besideWaiting_note _ (by decide)) (.right (besideWaiting_note _ (by decide))
    (.done (.refused tx error)))

theorem judge_alike (record : Value) (ownVisible : Bool) :
    Run.Alike besideWaiting (Verdicts trial monitor.markers)
      (judge monitor.markers (trial.expecting true) tx record ownVisible)
      (judge monitor.markers (trial.expecting false) tx record ownVisible) := by
  have judged : Verdicts trial monitor.markers _ _ := .judged tx record ownVisible
  cases ownVisible <;> cases marked : errorMarker monitor.markers record <;>
    simp only [Trial.verdict,Trial.expecting,marked] at judged <;>
    simp only [judge,judgeRecord,marked,Trial.expecting]
  · exact .left (besideWaiting_note _ (by decide)) (.right (besideWaiting_note _ (by decide))
      (.right (besideWaiting_note _ (by decide)) (.done judged)))
  · exact .left (besideWaiting_note _ (by decide)) (.right (besideWaiting_note _ (by decide))
      (.right (besideWaiting_note _ (by decide)) (.done judged)))
  · exact .right (besideWaiting_note _ (by decide)) (.done judged)
  · exact .left (besideWaiting_note _ (by decide)) (.right (besideWaiting_note _ (by decide))
      (.done judged))

theorem round_alike {attempts : Nat} :
    Run.Alike besideWaiting (Option.Rel (Verdicts trial monitor.markers))
      (round monitor (trial.expecting true) tx attempts)
      (round monitor (trial.expecting false) tx attempts) := by
  refine .perform fun authoritative => ?_
  cases authoritative with
  | error error => exact (onLedgerError_alike _ error).bind fun _ _ related => .done (.some related)
  | ok records =>
    refine .perform fun own => ?_
    cases own with
    | error error =>
      exact (onLedgerError_alike _ error).bind fun _ _ related => .done (.some related)
    | ok own =>
      cases records with
      | nil => exact .done .none
      | cons record more =>
        refine .perform fun _ => ?_
        exact (judge_alike record _).bind fun _ _ related => .done (.some related)

theorem poll_alike {started : Duration} {attempts fuel : Nat} {seen : Option Nat} :
    Run.Alike besideWaiting (Verdicts trial monitor.markers)
      (poll monitor (trial.expecting true) tx started attempts seen fuel)
      (poll monitor (trial.expecting false) tx started attempts seen fuel) := by
  induction fuel generalizing attempts seen with
  | zero => exact .perform fun _ => .done (.timedOut tx attempts ⟨0⟩)
  | succ fuel ih =>
    refine .perform fun stop => ?_
    cases stop with
    | true => exact .done (.cancelled tx)
    | false =>
      refine round_alike.bind fun verdict verdict' related => ?_
      cases related with
      | some related => exact .done related
      | none =>
        refine .note_if (.perform fun time => ?_)
        dsimp only
        split
        · exact .perform fun _ => .done (.timedOut tx (attempts + 1) _)
        · refine (Run.Alike.refl _).bind ?_
          rintro woken _ rfl
          cases woken with
          | stop => exact .done (.cancelled tx)
          | goOn seen => exact ih

theorem check_alike (monitor : Monitor) (trial : Trial) :
    Run.Alike besideWaiting (Verdicts trial monitor.markers)
      (check monitor (trial.expecting true)) (check monitor (trial.expecting false)) := by
  refine .perform fun reply => ?_
  cases reply with
  | error error => exact onLedgerError_alike none error
  | ok tx => exact .perform fun _ => .perform fun started => poll_alike

theorem Abandoned.isOk {verdict : Verdict} (abandoned : Abandoned verdict) :
    verdict.isOk = false := by
  obtain ⟨tx,rfl | ⟨attempts,waited,rfl⟩⟩ := abandoned <;> rfl

theorem not_abandoned_refusal {tx : Option TxId} {error : LedgerError} :
    ¬Abandoned (trial.refusal tx error) := by
  unfold Trial.refusal
  split <;> simp [Abandoned]

theorem not_abandoned_verdict {markers : List String} {record : Value} {ownVisible : Bool} :
    ¬Abandoned (trial.verdict markers tx record ownVisible) := by
  unfold Trial.verdict
  split <;> simp [Abandoned]

namespace Verdicts

variable {markers : List String} {wanted unwanted : Verdict}

/-- A wait that is abandoned has the same end for both expectations. -/
theorem abandoned (verdicts : Verdicts trial markers wanted unwanted)
    (gaveUp : Abandoned wanted ∨ Abandoned unwanted) : wanted = unwanted := by
  cases verdicts with
  | cancelled | timedOut => rfl
  | refused => exact absurd gaveUp (not_or_intro not_abandoned_refusal not_abandoned_refusal)
  | judged => exact absurd gaveUp (not_or_intro not_abandoned_verdict not_abandoned_verdict)

theorem one (verdicts : Verdicts trial markers wanted unwanted) :
    ¬(wanted.isOk ∧ unwanted.isOk) := by
  cases verdicts with
  | cancelled | timedOut => simp [Except.isOk,Except.toBool]
  | refused => simp [Except.isOk,Except.toBool,Trial.refusal,Trial.expecting]
  | judged tx record ownVisible =>
    cases ownVisible <;> cases marked : errorMarker markers record <;>
      simp [Except.isOk,Except.toBool,Trial.verdict,Trial.expecting,marked]

end Verdicts

/-- Neither expectation is met by a clean record that did not show to the submitter. -/
theorem both_fail_iff {replies : RoundReplies} {markers : List String} {tx' : TxId}
    {wanted unwanted : Verdict} (complete : replies.Complete)
    (decides : replies.verdict? (trial.expecting true) markers tx = some wanted)
    (decides' : replies.verdict? (trial.expecting false) markers tx' = some unwanted) :
    wanted.isOk = false ∧ unwanted.isOk = false ↔
      ∃ record more, replies = ⟨.ok (record :: more),some (.ok [])⟩ ∧
        errorMarker markers record = none := by
  obtain ⟨privileged,submitter⟩ := replies
  cases privileged with
  | error error =>
    cases decides
    cases decides'
    simp [Trial.refusal,Trial.expecting,Except.isOk,Except.toBool]
  | ok records =>
    cases submitter with
    | none =>
      obtain ⟨error,failed⟩ := complete.mp rfl
      contradiction
    | some submitter =>
      cases submitter with
      | error error =>
        obtain rfl : Trial.refusal _ _ error = wanted := by
          cases records <;> exact Option.some.inj decides
        obtain rfl : Trial.refusal _ _ error = unwanted := by
          cases records <;> exact Option.some.inj decides'
        simp [Trial.refusal,Trial.expecting,Except.isOk,Except.toBool]
      | ok own =>
        cases records with
        | nil => contradiction
        | cons record more =>
          cases decides
          cases decides'
          cases own <;> cases marked : errorMarker markers record <;>
            simp [Trial.verdict,Trial.expecting,Except.isOk,Except.toBool,marked]

/-- Both expectations fail if the wait was abandoned, or if the record of the last round is clean
and did not show to the submitter, and in no other case. -/
theorem both_fail {wanted unwanted : Verdict} {events events' : List Event}
    (verdicts : Verdicts trial monitor.markers wanted unwanted)
    (trace : Run.Trace (check monitor (trial.expecting true)) events wanted)
    (trace' : Run.Trace (check monitor (trial.expecting false)) events' unwanted)
    (same : roundsOf trial events' = roundsOf trial events) :
    wanted.isOk = false ∧ unwanted.isOk = false ↔
      (Abandoned wanted ∧ wanted = unwanted) ∨
        ∃ record more, (roundsOf trial events).getLast? = some ⟨.ok (record :: more),some (.ok [])⟩ ∧
          errorMarker monitor.markers record = none := by
  have settled := check_settled trace
  have settled' := check_settled trace'
  rw [roundsOf_expecting] at settled settled'
  rw [same] at settled'
  rcases settled with ⟨roundless,error,rfl⟩ | settled
  · rw [roundless] at settled' ⊢
    rcases settled' with ⟨-,error',rfl⟩ | ⟨gaveUp,-⟩
    · simp [Trial.refusal,Trial.expecting,Except.isOk,Except.toBool]
    · have same := verdicts.abandoned (.inr gaveUp)
      exact absurd (same ▸ gaveUp) not_abandoned_refusal
  generalize last : (roundsOf trial events).getLast? = shown at settled settled' ⊢
  cases settled with
  | abandoned gaveUp =>
    obtain rfl := verdicts.abandoned (.inl gaveUp)
    exact ⟨fun _ => .inl ⟨gaveUp,rfl⟩,fun _ => ⟨gaveUp.isOk,gaveUp.isOk⟩⟩
  | @decided replies wanted tx complete decides =>
    have judged : ¬Abandoned wanted := by
      obtain ⟨running,inTime⟩ := RoundReplies.judged_of_verdict? decides
      rintro ⟨id,cancelled | ⟨attempts,waited,timedOut⟩⟩
      · exact running id cancelled
      · exact inTime id attempts waited timedOut
    rcases settled' with ⟨roundless,-⟩ | ⟨-,undecided⟩ | ⟨tx',-,decides'⟩
    · rw [roundless] at last
      contradiction
    · rw [(undecided replies rfl).verdict?_eq_none] at decides
      contradiction
    · rw [both_fail_iff complete decides decides']
      simp [judged]

end Monitor

theorem ScenarioStage.runScoped_alike (stage : ScenarioStage) (key : Key) (entry : Transaction) :
    Run.Alike Monitor.besideWaiting (fun wanted unwanted => ¬(wanted.isOk ∧ unwanted.isOk))
      (stage.runScoped .yesTransaction key entry).run
      (stage.runScoped .noTransaction key entry).run := by
  unfold ScenarioStage.runScoped
  simp only [ExceptT.run_bind]
  refine (Run.Alike.refl _).bind ?_
  rintro opened _ rfl
  rcases opened with error | error | _
  · exact .done (by simp [Except.isOk,Except.toBool])
  · exact .left (Monitor.besideWaiting_note _ (by decide))
      (.right (Monitor.besideWaiting_note _ (by decide))
        (.done (by simp [Except.isOk,Except.toBool])))
  · refine (Monitor.check_alike stage.monitor (stage.trial .yesTransaction key entry)).bind ?_
    intro wanted unwanted verdicts
    have one := verdicts.one
    -- Only an outcome is reported, by the entry that expects it.
    cases wanted <;> cases unwanted
    · exact .done one
    · exact .right (Monitor.besideWaiting_note _ (by decide)) (.done one)
    · exact .left (Monitor.besideWaiting_note _ (by decide)) (.done one)
    · exact .left (Monitor.besideWaiting_note _ (by decide))
        (.right (Monitor.besideWaiting_note _ (by decide)) (.done one))

namespace Monitor

/-- Played from the same world with both expectations, a transaction leads to the same requests at
the same times with the same replies and the same notices that the wait goes on, and passes for one
expectation at most. -/
theorem expectation_decides_verdict {σ : Type} (monitor : Monitor) (trial : Trial)
    (surroundings : Surroundings σ) (world : World σ) :
    let wanted := surroundings.play (check monitor (trial.expecting true)) world
    let unwanted := surroundings.play (check monitor (trial.expecting false)) world
    let history := surroundings.dated (check monitor (trial.expecting true)) world
    let history' := surroundings.dated (check monitor (trial.expecting false)) world
    withoutNotes besideWaiting history = withoutNotes besideWaiting history' ∧
      wanted.2.silent = unwanted.2.silent ∧
      (∃ submission, trial.Conversed submission (history.map Dated.event) ∧
        trial.Conversed submission (history'.map Dated.event)) ∧
      ¬(wanted.1.isOk ∧ unwanted.1.isOk) ∧
      (wanted.1.isOk = false ∧ unwanted.1.isOk = false ↔
        (Abandoned wanted.1 ∧ wanted.1 = unwanted.1) ∨
          ∃ record more,
            (roundsOf trial (history.map Dated.event)).getLast? =
              some ⟨.ok (record :: more),some (.ok [])⟩ ∧
            errorMarker monitor.markers record = none) ∧
      ∀ (stage : ScenarioStage) (key : Key) (entry : Transaction),
        ¬((surroundings.play (stage.runScoped .yesTransaction key entry).run world).1.isOk ∧
          (surroundings.play (stage.runScoped .noTransaction key entry).run world).1.isOk) := by
  intro wanted unwanted history history'
  obtain ⟨verdicts,silent,same⟩ :=
    (check_alike monitor trial).played surroundings (Eq.refl world.silent)
  have trace := surroundings.trace_dated (check monitor (trial.expecting true)) world
  have trace' := surroundings.trace_dated (check monitor (trial.expecting false)) world
  have asked : exchanges (history.map Dated.event) = exchanges (history'.map Dated.event) := by
    rw [← exchanges_withoutNotes besideWaiting,same,exchanges_withoutNotes]
  have rounds : roundsOf trial (history'.map Dated.event) =
      roundsOf trial (history.map Dated.event) := by
    rw [roundsOf,roundsOf,lookupsOf,lookupsOf,asked]
  obtain ⟨submission,conversed⟩ := check_conversed trace
  obtain ⟨submission',conversed'⟩ := check_conversed trace'
  obtain rfl : submission = submission' := by
    have submitted := conversed.head?_eq.symm.trans
      ((congrArg List.head? asked).trans conversed'.head?_eq)
    simpa [Trial.expecting] using submitted
  refine ⟨same,silent,⟨submission,conversed.of_expecting,conversed'.of_expecting⟩,verdicts.one,?_,
    fun stage key entry => ?_⟩
  · exact both_fail verdicts trace trace' rounds
  · exact ((stage.runScoped_alike key entry).played surroundings rfl).1

end Monitor

end LedgerRehearsal
