import LedgerRehearsal.Proofs.Monitor.Deadline

/-! The answer on a monitored transaction, by what the ledger replies to it. While nobody uses the
stop signal, the first round that decides gives the answer, unless the time was over before it. -/
namespace LedgerRehearsal

open Json

namespace Monitor

/-- The answer on a trial to which the ledger replies by a script, with all that is asked for it.
A transaction that cannot be submitted is not looked up. -/
structure Answers (monitor : Monitor) (trial : Trial) (script : TransactionScript)
    (events : List Event) (verdict : Verdict) : Prop where
  refused : ∀ error, script.submission = .error error →
    verdict = trial.refusal none error ∧
    exchanges events = [⟨.submit trial.submitter trial.transaction,.error error⟩]
  gaveUp : ∀ tx deadline, script.submission = .ok tx → monitor.policy.deadline = some deadline →
    let last := monitor.policy.lastRound deadline
    (∀ n, script.DecidesFirst n → last < n) → last + 1 ≤ maxAttempts →
      verdict = .error (.timedOut tx (last + 1) ⟨last * monitor.policy.interval.nanos⟩) ∧
      exchanges events = trial.conversation (.ok tx) (script.rounds (last + 1))
  decided : ∀ tx n, script.submission = .ok tx → script.DecidesFirst n →
    (∀ deadline, monitor.policy.deadline = some deadline →
      n ≤ monitor.policy.lastRound deadline) → n + 1 ≤ maxAttempts →
      some verdict =
        trial.verdictOn monitor.markers tx (script.privileged n) (script.submitter n) ∧
      exchanges events = trial.conversation (.ok tx) (script.rounds (n + 1))

variable {monitor : Monitor} {trial : Trial}

theorem check_answers {σ : Type} (surroundings : Surroundings σ) {world : World σ}
    (quiet : world.timeline.Quiet) (moves : 0 < monitor.policy.interval.nanos) :
    Answers monitor trial (surroundings.script trial world.ledger)
      (surroundings.history (check monitor trial) world)
      (surroundings.play (check monitor trial) world).1 := by
  have follows := follows_exchanges (surroundings.follows_history (check monitor trial) world)
  rcases check_waited surroundings quiet monitor trial with
    ⟨error,conversed,refused,-⟩ | ⟨tx,last,conversed,waited,-⟩
  · obtain ⟨submitted,-⟩ := conversed.scripted follows
    constructor
    case refused =>
      intro other failed
      obtain rfl : error = other := Except.error.inj (submitted.trans failed)
      exact ⟨refused,conversed.exchanges_eq⟩
    case gaveUp =>
      intro tx deadline taken
      cases submitted.trans taken
    case decided =>
      intro tx n taken
      cases submitted.trans taken
  · obtain ⟨submitted,scripted⟩ := conversed.scripted follows
    constructor
    case refused =>
      intro error failed
      cases submitted.trans failed
    case gaveUp =>
      intro tx' deadline taken limited last late counted
      obtain rfl : tx = tx' := Except.ok.inj (submitted.trans taken)
      have undecided : ∀ i ≤ last, ¬(surroundings.script trial world.ledger).Decides i := by
        intro i early decides
        obtain ⟨n,before,first⟩ := TransactionScript.exists_decidesFirst decides
        exact Nat.not_lt_of_le (Nat.le_trans before early) (late n first)
      obtain ⟨ends,-,length⟩ := gaveUpAt waited scripted moves limited counted undecided
      refine ⟨ends,?_⟩
      rw [conversed.exchanges_eq,scripted,length]
    case decided =>
      intro tx' n taken first inTime counted
      obtain rfl : tx = tx' := Except.ok.inj (submitted.trans taken)
      obtain ⟨ends,-,length⟩ := decidedAt waited scripted moves first counted inTime
      rw [TransactionScript.verdict?_round] at ends
      refine ⟨ends,?_⟩
      rw [conversed.exchanges_eq,scripted,length]

/-- A transaction that is committed between its first round and its second. -/
def committedLater : TransactionScript :=
  ⟨.ok "tx",fun i => .ok (if i = 0 then [] else [.object []]),fun _ => .ok [.object []]⟩

theorem committedLater_decidesFirst : committedLater.DecidesFirst 1 := by
  refine ⟨.inl (by simp [committedLater]),fun i earlier decides => ?_⟩
  obtain rfl : i = 0 := by omega
  simp [committedLater,TransactionScript.Decides] at decides

end Monitor

end LedgerRehearsal
