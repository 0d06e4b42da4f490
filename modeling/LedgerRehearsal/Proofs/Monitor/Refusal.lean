import LedgerRehearsal.Proofs.Monitor.LastWord

/-! Transactions that must be refused. The privileged view decides, but only in a round whose two
lookups both succeed, and only by its first record: a round in which the submitter cannot look its
transaction up passes as a refusal, whatever the privileged view showed. -/
namespace LedgerRehearsal

open Json

namespace Monitor

variable {monitor : Monitor} {trial : Trial}

/-- The verdict of a round that shows a record. -/
theorem refused_of_shown {round : RoundReplies} {record : Value} {more : List Value}
    {markers : List String} {tx : TxId} {verdict : Verdict} (unwanted : trial.expectSuccess = false)
    (shown : round.privileged = .ok (record :: more)) (complete : round.Complete)
    (decides : round.verdict? trial markers tx = some verdict) :
    (∃ outcome, verdict = .ok outcome) ↔
      (∃ error, round.submitter = some (.error error)) ∨ (errorMarker markers record).isSome := by
  obtain ⟨_,submitter⟩ := round
  obtain rfl := shown
  cases submitter with
  | none =>
    obtain ⟨error,failed⟩ := complete.mp rfl
    contradiction
  | some submitter =>
    cases submitter with
    | error error =>
      obtain rfl := Option.some.inj decides
      simp [Trial.refusal,unwanted]
    | ok own =>
      obtain rfl := Option.some.inj decides
      cases marked : errorMarker markers record <;> simp [Trial.verdict,unwanted,marked]

/-- A transaction that must be refused passes in a round that shows a record to the privileged key
if the first record is marked or the submitter could not look the transaction up, and it passes in
no other such round. -/
theorem refused_iff_unreadable_or_marked {events : List Event} {verdict : Verdict}
    (unwanted : trial.expectSuccess = false)
    (trace : Run.Trace (check monitor trial) events verdict) :
    (∃ submission, trial.Conversed submission events) ∧
      ∀ round ∈ roundsOf trial events, ∀ record more, round.privileged = .ok (record :: more) →
        ((∃ outcome, verdict = .ok outcome) ↔
          (∃ error, round.submitter = some (.error error)) ∨
            (errorMarker monitor.markers record).isSome) := by
  obtain ⟨submission,conversed⟩ := check_conversed trace
  refine ⟨⟨submission,conversed⟩,fun round member record more shown => ?_⟩
  have decided : ¬round.Undecided := by
    rintro ⟨nothing,-⟩
    cases shown.symm.trans nothing
  rcases check_settled trace with ⟨roundless,-⟩ | settled
  · rw [roundless] at member
    contradiction
  · rw [conversed.getLast?_eq member decided] at settled
    cases settled with
    | abandoned _ undecided => exact absurd (undecided round rfl) decided
    | decided tx complete decides => exact refused_of_shown unwanted shown complete decides

/-- A transaction that must be refused but is committed. -/
def unreadableCommit : Trial :=
  ⟨⟨⟨"net/db"⟩,⟨"k","root"⟩⟩,⟨⟨"net/db"⟩,⟨"l","reader"⟩⟩,.list [],false⟩

/-- The submitter cannot look it up. -/
def unreadableCommitEvents : List Event :=
  [⟨.ask (.submit unreadableCommit.submitter unreadableCommit.transaction),.ok "tx"⟩,
    ⟨.note (submittedNotice unreadableCommit "tx"),()⟩,⟨.now,⟨0⟩⟩,⟨.stopRequested,false⟩,
    ⟨.ask (.lookup unreadableCommit.privileged "tx"),.ok [.object []]⟩,
    ⟨.ask (.lookup unreadableCommit.submitter "tx"),.error (.transport "reset")⟩,
    ⟨.note ⟨.warn,"Ledger error on a transaction expected to fail",
      [("phase",Phase.noTransaction.label),("error","Ledger transport error: reset")]⟩,()⟩]

theorem trace_unreadableCommit (monitor : Monitor) :
    Run.Trace (check monitor unreadableCommit) unreadableCommitEvents
      (.ok (.rejectedAsExpected (some "tx") "Ledger transport error: reset")) :=
  .act (.act (.act (.act (.act (.act (.act .done))))))

theorem unreadable_commit_refused :
    ∃ verdict, Run.Trace (check ⟨⟨.ofMillis 100,10,none⟩,["error"]⟩ unreadableCommit)
        unreadableCommitEvents verdict ∧ ∃ outcome, verdict = .ok outcome := by
  refine ⟨_,trace_unreadableCommit _,?_⟩
  have refused := (refused_iff_unreadable_or_marked rfl (trace_unreadableCommit
    ⟨⟨.ofMillis 100,10,none⟩,["error"]⟩)).2 ⟨.ok [.object []],some (.error (.transport "reset"))⟩
  exact (refused (by simp [roundsOf,unreadableCommitEvents]) _ _ rfl).mpr (.inl ⟨_,rfl⟩)

/-- A pass does not mean that every record shown is marked. -/
theorem clean_commit_passes_as_refused :
    ¬∀ (monitor : Monitor) (trial : Trial) (events : List Event) (outcome : Outcome),
      trial.expectSuccess = false → Run.Trace (check monitor trial) events (.ok outcome) →
      ∀ round ∈ roundsOf trial events, ∀ records, round.privileged = .ok records →
      ∀ record ∈ records, (errorMarker monitor.markers record).isSome := by
  intro marked
  have clean := marked ⟨⟨.ofMillis 100,10,none⟩,["error"]⟩ unreadableCommit _ _ rfl
    (trace_unreadableCommit _) ⟨.ok [.object []],some (.error (.transport "reset"))⟩
    (by simp [roundsOf,unreadableCommitEvents]) _ rfl (.object []) (by simp)
  contradiction

end Monitor

end LedgerRehearsal
