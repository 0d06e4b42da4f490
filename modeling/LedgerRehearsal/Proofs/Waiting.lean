import LedgerRehearsal.Proofs.Result
import LedgerRehearsal.Proofs.Timeline
import LedgerRehearsal.Settings

/-! Waiting by asking again and again, whatever is asked for. While nobody interrupts a wait, round
`i` is made `i` intervals after it began. So the deadline tells which round can be the last one, and
the first round that settles the matter gives the result if it does not come later. -/
namespace LedgerRehearsal

/-- Nothing has happened to the stop signal, and nothing is going to. -/
structure Timeline.Quiet (timeline : Timeline) : Prop where
  untouched : timeline.channel = .initial
  unplanned : timeline.plan = []

namespace PollPolicy

/-- The round after which the time is over, counted from zero. -/
def lastRound (policy : PollPolicy) (deadline : Duration) : Nat :=
  (deadline.nanos + policy.interval.nanos - 1) / policy.interval.nanos

variable {policy : PollPolicy} {deadline : Duration}

theorem isOver_iff_lastRound (limited : policy.deadline = some deadline)
    (moves : 0 < policy.interval.nanos) (i : Nat) :
    policy.isOver ⟨i * policy.interval.nanos⟩ = true ↔ policy.lastRound deadline ≤ i := by
  simp only [isOver,limited,decide_eq_true_eq,lastRound]
  rw [Nat.div_le_iff_le_mul_add_pred moves,Nat.mul_comm i]
  omega

theorem lt_lastRound_of_early (limited : policy.deadline = some deadline)
    (moves : 0 < policy.interval.nanos) {i : Nat}
    (early : policy.isOver ⟨i * policy.interval.nanos⟩ = false) : i < policy.lastRound deadline := by
  refine Nat.lt_of_not_le fun late => ?_
  rw [(isOver_iff_lastRound limited moves i).mpr late] at early
  contradiction

/-- The last round is made less than an interval after the deadline. -/
theorem lastRound_lt (policy : PollPolicy) (deadline : Duration)
    (moves : 0 < policy.interval.nanos) :
    policy.lastRound deadline * policy.interval.nanos <
      deadline.nanos + policy.interval.nanos := by
  have counted := Nat.div_mul_le_self (deadline.nanos + policy.interval.nanos - 1)
    policy.interval.nanos
  unfold lastRound
  omega

/-- A notice is due when the number of notices goes up. -/
theorem notices_succ (policy : PollPolicy) (attempts : Nat) :
    (attempts + 1) / max policy.noticeEvery 1 =
      attempts / max policy.noticeEvery 1 +
        if policy.noticeDue (attempts + 1) then 1 else 0 := by
  simp [Nat.succ_div,noticeDue,Nat.dvd_iff_mod_eq_zero]

end PollPolicy

/-- If nothing is planned for the stop signal, a run goes on while nobody may use it. -/
theorem Timeline.Quiet.unfolds {σ : Type} {surroundings : Surroundings σ} {events : List Event}
    {world final : World σ} (quiet : world.timeline.Quiet)
    (follows : Follows surroundings.answer events world final) :
    ∃ dated, dated.map Dated.event = events ∧
      Unfolds (fun _ => False) dated world.timeline.moment [] final.timeline.moment :=
  follows.unfolds _ (by simp [Timeline.Ordered,quiet.unplanned]) (by simp [quiet.unplanned])

namespace Settings

variable {settings : Settings}

/-- Settings that pass the check let time go on. -/
theorem interval_pos (accepted : settings.check = .ok ()) : 0 < settings.polling.intervalMs := by
  refine Nat.pos_of_ne_zero fun zero => ?_
  simp only [check,zero,Except.bind_eq_ok] at accepted
  obtain ⟨_,-,_,-,_,-,_,-,_,refused,-⟩ := accepted
  contradiction

theorem policy_moves (accepted : settings.check = .ok ()) :
    0 < settings.policy.interval.nanos :=
  Nat.mul_pos (interval_pos accepted) (by decide)

/-- The number of intervals that the deadline takes, rounded up. -/
def lastRound (settings : Settings) (deadlineMs : Nat) : Nat :=
  (deadlineMs + settings.polling.intervalMs - 1) / settings.polling.intervalMs

theorem policy_lastRound (accepted : settings.check = .ok ()) (deadlineMs : Nat) :
    settings.policy.lastRound (.ofMillis deadlineMs) = settings.lastRound deadlineMs := by
  have moves := interval_pos accepted
  have same (n : Nat) :
      settings.policy.lastRound (.ofMillis deadlineMs) ≤ n ↔ settings.lastRound deadlineMs ≤ n := by
    rw [PollPolicy.lastRound,lastRound,Nat.div_le_iff_le_mul_add_pred moves,
      Nat.div_le_iff_le_mul_add_pred (policy_moves accepted)]
    simp only [policy,Duration.ofMillis,Nat.mul_right_comm _ 1000000 n]
    omega
  exact Nat.le_antisymm ((same _).mpr (Nat.le_refl _)) ((same _).mp (Nat.le_refl _))

theorem policy_deadline {deadlineMs : Nat}
    (limited : settings.polling.deadlineMs = some deadlineMs) :
    settings.policy.deadline = some (.ofMillis deadlineMs) := by
  simp [policy,limited]

theorem policy_intervals (settings : Settings) (n : Nat) :
    n * settings.policy.interval.nanos = (Duration.ofMillis (n * settings.polling.intervalMs)).nanos :=
  (Nat.mul_assoc _ _ _).symm

/-- A wait by a deadline makes so few rounds, and it is over before the first interval after the
deadline is. -/
structure InTime (settings : Settings) (deadlineMs rounds : Nat)
    (started ended : Duration) : Prop where
  few : rounds ≤ settings.lastRound deadlineMs + 1
  soon : ended.nanos <
    started.nanos + (Duration.ofMillis (deadlineMs + settings.polling.intervalMs)).nanos

end Settings

/-- A wait that nobody interrupts, from round `i` on: its rounds, its result, and how many intervals
it lasted. Rounds that cannot be counted any more are not made. -/
inductive Waited {ρ ν : Type} (policy : PollPolicy) (settles : ρ → Option ν) (givesUp : Nat → ρ → ν) :
    Nat → List ρ → ν → Nat → Prop where
  | settled {i : Nat} {round : ρ} {result : ν} :
      settles round = some result → Waited policy settles givesUp i [round] result i
  | gaveUp {i : Nat} {round : ρ} :
      settles round = none → policy.isOver ⟨i * policy.interval.nanos⟩ = true →
      Waited policy settles givesUp i [round] (givesUp i round) i
  | again {i last : Nat} {round : ρ} {rounds : List ρ} {result : ν} :
      settles round = none → policy.isOver ⟨i * policy.interval.nanos⟩ = false →
      Waited policy settles givesUp (i + 1) rounds result last →
      Waited policy settles givesUp i (round :: rounds) result last
  | exhausted {result : ν} : Waited policy settles givesUp maxAttempts [] result maxAttempts

namespace Waited

variable {ρ ν : Type} {policy : PollPolicy} {settles : ρ → Option ν} {givesUp : Nat → ρ → ν}
  {i last : Nat} {rounds : List ρ} {result : ν} {deadline : Duration}

/-- No round is made after the first one that the deadline is not after. -/
theorem inTime (waited : Waited policy settles givesUp i rounds result last)
    (limited : policy.deadline = some deadline) (moves : 0 < policy.interval.nanos)
    (reached : i ≤ policy.lastRound deadline) :
    last ≤ policy.lastRound deadline ∧ i + rounds.length ≤ last + 1 := by
  induction waited with
  | settled | gaveUp => exact ⟨reached,Nat.le_refl _⟩
  | again _ early _ ih =>
    rw [List.length_cons,← Nat.add_assoc,Nat.add_right_comm]
    exact ih (PollPolicy.lt_lastRound_of_early limited moves early)
  | exhausted => exact ⟨reached,Nat.le_succ _⟩

/-- The first round that settles the matter gives the result, if the time is not over before it. -/
theorem settledAt (waited : Waited policy settles givesUp i rounds result last)
    (moves : 0 < policy.interval.nanos) (given : Nat → ρ)
    (shown : ∀ j round, rounds[j]? = some round → round = given (i + j)) {n : Nat} {expected : ν}
    (reached : i ≤ n) (counted : n < maxAttempts)
    (inTime : ∀ deadline, policy.deadline = some deadline → n ≤ policy.lastRound deadline)
    (before : ∀ j < n, settles (given j) = none) (settled : settles (given n) = some expected) :
    result = expected ∧ last = n ∧ i + rounds.length = n + 1 := by
  induction waited with
  | @settled i round result ends =>
    obtain rfl : round = given i := shown 0 round rfl
    rcases Nat.eq_or_lt_of_le reached with rfl | sooner
    · exact ⟨Option.some.inj (ends.symm.trans settled),rfl,rfl⟩
    · rw [before i sooner] at ends
      contradiction
  | @gaveUp i round unsettled expired =>
    obtain rfl : round = given i := shown 0 round rfl
    have late : n ≤ i := by
      cases limited : policy.deadline with
      | none => simp [PollPolicy.isOver,limited] at expired
      | some deadline =>
        exact Nat.le_trans (inTime deadline limited)
          ((PollPolicy.isOver_iff_lastRound limited moves i).mp expired)
    obtain rfl := Nat.le_antisymm reached late
    rw [unsettled] at settled
    contradiction
  | @again i _ round rounds _ unsettled _ _ ih =>
    obtain rfl : round = given i := shown 0 round rfl
    have differ : i ≠ n := by
      rintro rfl
      rw [unsettled] at settled
      contradiction
    rw [List.length_cons,← Nat.add_assoc,Nat.add_right_comm]
    refine ih (fun j other found => ?_) (by omega)
    rw [Nat.add_right_comm]
    exact shown (j + 1) other found
  | exhausted => exact absurd counted (Nat.not_lt_of_le reached)

/-- If no round settles the matter, the wait ends with the last round that the deadline allows. -/
theorem gaveUpAt (waited : Waited policy settles givesUp i rounds result last)
    (limited : policy.deadline = some deadline) (moves : 0 < policy.interval.nanos)
    (reached : i ≤ policy.lastRound deadline) (counted : policy.lastRound deadline < maxAttempts)
    (unsettled : ∀ round ∈ rounds, settles round = none) :
    last = policy.lastRound deadline ∧ i + rounds.length = policy.lastRound deadline + 1 ∧
      ∃ round, rounds.getLast? = some round ∧
        result = givesUp (policy.lastRound deadline) round := by
  induction waited with
  | settled ends =>
    rw [unsettled _ (List.mem_singleton.mpr rfl)] at ends
    contradiction
  | @gaveUp i round _ expired =>
    obtain rfl := Nat.le_antisymm reached ((PollPolicy.isOver_iff_lastRound limited moves i).mp expired)
    exact ⟨rfl,rfl,round,rfl,rfl⟩
  | @again i _ round rounds _ _ early waited ih =>
    obtain ⟨ended,length,final,found,gaveUp⟩ :=
      ih (PollPolicy.lt_lastRound_of_early limited moves early) (List.forall_mem_cons.mp unsettled).2
    refine ⟨ended,?_,final,?_,gaveUp⟩
    · rw [List.length_cons,← Nat.add_assoc,Nat.add_right_comm,length]
    · cases rounds with
      | nil => contradiction
      | cons next rounds => rw [List.getLast?_cons_cons,found]
  | exhausted => exact absurd counted (Nat.not_lt_of_le reached)

/-- A wait by the deadline of the settings. -/
theorem within {settings : Settings} {deadlineMs : Nat}
    (waited : Waited settings.policy settles givesUp 0 rounds result last)
    (accepted : settings.check = .ok ())
    (limited : settings.polling.deadlineMs = some deadlineMs) (started : Duration) :
    settings.InTime deadlineMs rounds.length started
      ⟨started.nanos + last * settings.policy.interval.nanos⟩ := by
  have moves := Settings.policy_moves accepted
  obtain ⟨reached,few⟩ := waited.inTime (Settings.policy_deadline limited) moves (Nat.zero_le _)
  have bound := settings.policy.lastRound_lt (.ofMillis deadlineMs) moves
  have passed := Nat.mul_le_mul_right settings.policy.interval.nanos reached
  rw [Settings.policy_lastRound accepted] at reached bound passed
  refine ⟨by omega,?_⟩
  have total : (Duration.ofMillis (deadlineMs + settings.polling.intervalMs)).nanos =
      (Duration.ofMillis deadlineMs).nanos + settings.policy.interval.nanos := Nat.add_mul _ _ _
  rw [total]
  dsimp only
  omega

end Waited

end LedgerRehearsal
