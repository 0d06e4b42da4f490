import LedgerRehearsal.Proofs.Monitor.LastWord
import LedgerRehearsal.Proofs.Monitor.Pace
import LedgerRehearsal.Proofs.Monitor.Replies
import LedgerRehearsal.Proofs.Waiting

/-! Waits that nobody interrupts. Round `i` is made `i` intervals after the wait began and learns what
the ledger replies to it then, so a deadline bounds the number of rounds, and the replies tell which
of them is the last. -/
namespace LedgerRehearsal

namespace Monitor

variable {monitor : Monitor} {trial : Trial} {tx : TxId}

/-- How a transaction is given up after round `i`. -/
def givesUp (monitor : Monitor) (tx : TxId) (i : Nat) (_ : RoundReplies) : Verdict :=
  .error (.timedOut tx (i + 1) ⟨i * monitor.policy.interval.nanos⟩)

/-- While nobody uses the stop signal, a rest lasts an interval. -/
theorem Resumes.undisturbed {policy : PollPolicy} {before after : Moment} {next : Option Nat}
    (resumes : Resumes policy before after (some 0) next) (initial : after.channel = .initial) :
    next = some 0 ∧ after.now = before.now.plus policy.interval := by
  cases resumes with
  | slept _ now => exact ⟨rfl,now⟩
  | changed unheard made =>
    rw [initial] at made
    exact absurd made (Nat.not_le_of_lt unheard)
  | closed _ closed =>
    rw [initial] at closed
    contradiction

theorem poll_waited {started : Duration} {i fuel : Nat} {dated : List Dated}
    {moment final : Moment} {verdict : Verdict}
    (trace : Run.Trace (poll monitor trial tx started i (some 0) fuel) (dated.map Dated.event)
      verdict)
    (unfolds : Unfolds (fun _ => False) dated moment [] final)
    (initial : moment.channel = .initial) (awake : moment.asleep = ⟨0⟩)
    (now : moment.now = ⟨started.nanos + i * monitor.policy.interval.nanos⟩)
    (counted : i + fuel = maxAttempts) :
    ∃ last, Waited monitor.policy (·.verdict? trial monitor.markers tx) (monitor.givesUp tx) i
        (roundsOf trial (dated.map Dated.event)) verdict last ∧
      final.now = ⟨started.nanos + last * monitor.policy.interval.nanos⟩ := by
  induction fuel generalizing i dated moment with
  | zero =>
    obtain ⟨aside,-⟩ := trace_poll_zero trace
    obtain rfl : i = maxAttempts := counted
    refine ⟨maxAttempts,?_,(unfolds.still (instant_notes aside.notes)).trans now⟩
    rw [roundsOf_silent (lookupsOf_silent aside.exchanges_eq)]
    exact .exhausted
  | succ fuel ih =>
    have unrequested : ⟨.stopRequested,true⟩ ∉ dated.map Dated.event :=
      unfolds.requested_steady false (by rw [initial]; rfl) fun _ => False.elim
    generalize dates : dated.map Dated.event = events at trace unrequested
    cases trace_poll trace with
    | stopped => exact absurd List.mem_cons_self unrequested
    | decided looked notes =>
      obtain ⟨replies,rounds,-,-,decides⟩ := looked.last (lookupsOf_silent notes.exchanges_eq)
      refine ⟨i,?_,(unfolds.still ?_).trans now⟩
      · rw [rounds]
        exact .settled decides
      · rw [dates]
        simp only [List.forall_mem_cons,List.forall_mem_append]
        exact ⟨trivial,looked.instant,instant_notes notes⟩
    | @timedOut _ _ _ time looked notes expired gaveUp =>
      have quick := looked.instant_round notes time (instant_notes gaveUp)
      obtain ⟨replies,rounds,-,-,silent⟩ :=
        looked.last (lookupsOf_between notes time gaveUp.exchanges_eq)
      obtain ⟨-,-,-,answered⟩ := unfolds.instantly (dates.trans (List.append_nil _).symm) awake quick
      obtain ⟨answering,read,answers⟩ := answered ⟨.now,time⟩ (by simp)
      have waited : time.since started = ⟨i * monitor.policy.interval.nanos⟩ := by
        have reads : time = answering.now := answers
        simp [reads,read,now,Duration.since]
      rw [waited] at expired ⊢
      refine ⟨i,?_,(unfolds.still (dates ▸ quick)).trans now⟩
      rw [rounds]
      exact .gaveUp silent expired
    | stoppedAtRest looked notes early rested =>
      cases rested
      exact absurd (by simp) unrequested
    | @again _ _ _ _ time _ _ looked notes early rested goesOn =>
      obtain ⟨read,round,gap,-,still,resumes⟩ :=
        looked.paced notes rested unfolds dates awake (by simp [Heard])
      have untouched := (round.during.trans gap.during).untouched.trans initial
      obtain ⟨rfl,slept⟩ := resumes.undisturbed untouched
      have next : gap.middle.now =
          ⟨started.nanos + (i + 1) * monitor.policy.interval.nanos⟩ := by
        rw [slept,still,now,Duration.plus,Nat.add_assoc,← Nat.succ_mul]
      obtain ⟨last,waited,ended⟩ := ih (by rwa [gap.more_events]) gap.after untouched gap.awake
        next (by omega)
      obtain ⟨replies,undecided,-,rounds⟩ := roundsOf_again looked notes time rested
      refine ⟨last,?_,ended⟩
      rw [gap.more_events] at waited
      rw [rounds]
      refine .again (undecided.verdict?_eq_none trial monitor.markers tx) ?_ waited
      simpa [read,now,Duration.since] using early

/-- A transaction that nobody interrupts. -/
theorem check_waited {σ : Type} (surroundings : Surroundings σ) {world : World σ}
    (quiet : world.timeline.Quiet) (monitor : Monitor) (trial : Trial) :
    let events := surroundings.history (check monitor trial) world
    let played := surroundings.play (check monitor trial) world
    (∃ error, trial.Conversed (.error error) events ∧ played.1 = trial.refusal none error ∧
      played.2.timeline.now = world.timeline.now) ∨
    ∃ tx last, trial.Conversed (.ok tx) events ∧
      Waited monitor.policy (·.verdict? trial monitor.markers tx) (monitor.givesUp tx) 0
        (roundsOf trial events) played.1 last ∧
      played.2.timeline.now =
        ⟨world.timeline.now.nanos + last * monitor.policy.interval.nanos⟩ := by
  intro events played
  have trace : Run.Trace _ events played.1 := surroundings.trace_history _ _
  have follows : Follows _ events world played.2 := surroundings.follows_history _ _
  clear_value events played
  obtain ⟨dated,dates,unfolds⟩ := quiet.unfolds follows
  rcases trace_check trace with ⟨error,notes,rfl,aside,refused⟩ | ⟨tx,started,later,rfl,polled⟩
  · refine .inl ⟨error,conversed_refused trial error aside,refused,unfolds.still ?_⟩
    rw [dates]
    exact List.forall_mem_cons.mpr ⟨trivial,instant_notes aside.notes⟩
  · obtain ⟨first,still,-,answered⟩ := unfolds.instantly
      (show dated.map Dated.event = [_,_,_] ++ later from dates) rfl (by simp [Effect.Instant])
    obtain ⟨answering,now,answers⟩ := answered ⟨.now,started⟩ (by simp)
    have read : started = answering.now := answers
    have begins : first.middle.now =
        ⟨started.nanos + 0 * monitor.policy.interval.nanos⟩ := by
      rw [still,read,now,Nat.zero_mul]
      rfl
    obtain ⟨last,waited,ended⟩ := poll_waited (by rwa [first.more_events]) first.after
      (first.during.untouched.trans quiet.untouched) first.awake begins (Nat.zero_add _)
    rw [first.more_events] at waited
    refine .inr ⟨tx,last,conversed_taken polled,?_,ended.trans ?_⟩
    · rwa [roundsOf_submitted]
    · rw [read,now]
      rfl

section

variable {script : TransactionScript} {rounds : List RoundReplies} {verdict : Verdict} {last : Nat}

/-- The first round that decides gives the verdict, if it is made in time. -/
theorem decidedAt (waited : Waited monitor.policy (·.verdict? trial monitor.markers tx)
      (monitor.givesUp tx) 0 rounds verdict last)
    (scripted : rounds = script.rounds rounds.length) (moves : 0 < monitor.policy.interval.nanos)
    {n : Nat} (first : script.DecidesFirst n) (counted : n < maxAttempts)
    (inTime : ∀ deadline, monitor.policy.deadline = some deadline →
      n ≤ monitor.policy.lastRound deadline) :
    some verdict = (script.round n).verdict? trial monitor.markers tx ∧
      last = n ∧ rounds.length = n + 1 := by
  have shown : ∀ j round, rounds[j]? = some round → round = script.round (0 + j) := by
    intro j round made
    rw [scripted] at made
    rw [Nat.zero_add,TransactionScript.eq_round_of_getElem? made]
  have silent {i : Nat} (undecided : ¬script.Decides i) :
      (script.round i).verdict? trial monitor.markers tx = none :=
    (TransactionScript.undecided_round_iff.mpr undecided).verdict?_eq_none _ _ _
  have decided : (script.round n).verdict? trial monitor.markers tx ≠ none := fun silent =>
    TransactionScript.undecided_round_iff.mp
      ((RoundReplies.undecided_iff (script.complete_round n) _ _ _).mpr silent) first.1
  obtain ⟨expected,decides⟩ := Option.ne_none_iff_exists'.mp decided
  obtain ⟨ends,ended,length⟩ := waited.settledAt moves script.round shown (Nat.zero_le n) counted
    inTime (fun i earlier => silent (first.2 i earlier)) decides
  rw [Nat.zero_add] at length
  exact ⟨ends ▸ decides.symm,ended,length⟩

/-- If no round in time decides, the transaction is given up after the last one of them. -/
theorem gaveUpAt (waited : Waited monitor.policy (·.verdict? trial monitor.markers tx)
      (monitor.givesUp tx) 0 rounds verdict last)
    (scripted : rounds = script.rounds rounds.length) (moves : 0 < monitor.policy.interval.nanos)
    {deadline : Duration} (limited : monitor.policy.deadline = some deadline)
    (counted : monitor.policy.lastRound deadline < maxAttempts)
    (undecided : ∀ i ≤ monitor.policy.lastRound deadline, ¬script.Decides i) :
    verdict = .error (.timedOut tx (monitor.policy.lastRound deadline + 1)
        ⟨monitor.policy.lastRound deadline * monitor.policy.interval.nanos⟩) ∧
      last = monitor.policy.lastRound deadline ∧
      rounds.length = monitor.policy.lastRound deadline + 1 := by
  obtain ⟨reached,few⟩ := waited.inTime limited moves (Nat.zero_le _)
  have unsettled : ∀ round ∈ rounds, round.verdict? trial monitor.markers tx = none := by
    intro round member
    obtain ⟨i,within,found⟩ := List.getElem_of_mem member
    have made := List.getElem?_eq_some_iff.mpr ⟨within,found⟩
    rw [scripted] at made
    rw [TransactionScript.eq_round_of_getElem? made]
    exact (TransactionScript.undecided_round_iff.mpr (undecided i (by omega))).verdict?_eq_none _ _ _
  obtain ⟨ended,length,_,-,gaveUp⟩ :=
    waited.gaveUpAt limited moves (Nat.zero_le _) counted unsettled
  rw [Nat.zero_add] at length
  exact ⟨gaveUp,ended,length⟩

end

/-- How many rounds of a monitored transaction decided nothing. -/
def undecidedRounds (trial : Trial) (events : List Event) : Nat :=
  (roundsOf trial events).countP fun round => decide round.Undecided

theorem Looked.unannounced {lookups : List Event} {result : Option Verdict}
    (looked : Looked monitor trial tx lookups result) (message : String) :
    timesGiven message lookups = 0 := by
  cases looked <;> simp

theorem Rested.unannounced {policy : PollPolicy} {seen : Option Nat} {resting : List Event}
    {result : AfterRest} (rested : Rested policy seen resting result) (message : String) :
    timesGiven message resting = 0 := by
  cases rested <;> simp

/-- Whether the last round is one of the undecided ones. -/
theorem Looked.undecidedRounds {lookups rest : List Event} {result : Option Verdict}
    (looked : Looked monitor trial tx lookups result) (silent : lookupsOf rest = []) :
    undecidedRounds trial (⟨.stopRequested,false⟩ :: (lookups ++ rest)) =
      if result = none then 1 else 0 := by
  obtain ⟨replies,rounds,-,complete,decides⟩ := looked.last silent
  rw [Monitor.undecidedRounds,rounds,List.countP_singleton]
  simp only [decide_eq_true_eq,RoundReplies.undecided_iff complete trial monitor.markers tx,decides]

/-- A notice is given after every so many undecided rounds, whatever ends the wait. -/
theorem poll_notices {started : Duration} {attempts fuel : Nat} {seen : Option Nat}
    {events : List Event} {verdict : Verdict}
    (trace : Run.Trace (poll monitor trial tx started attempts seen fuel) events verdict) :
    attempts / max monitor.policy.noticeEvery 1 + timesGiven waitingMessage events =
      (attempts + undecidedRounds trial events) / max monitor.policy.noticeEvery 1 := by
  induction fuel generalizing attempts seen events with
  | zero =>
    obtain ⟨aside,-⟩ := trace_poll_zero trace
    rw [undecidedRounds,roundsOf_silent (lookupsOf_silent aside.exchanges_eq),aside.unannounced]
    rfl
  | succ fuel ih =>
    have due := monitor.policy.notices_succ attempts
    cases trace_poll trace with
    | stopped => rfl
    | decided looked notes unannounced =>
      rw [looked.undecidedRounds (lookupsOf_silent notes.exchanges_eq)]
      simp [looked.unannounced,unannounced]
    | @timedOut _ _ _ time looked notes expired gaveUp announced unannounced =>
      rw [looked.undecidedRounds (lookupsOf_between notes time gaveUp.exchanges_eq)]
      simp [looked.unannounced,announced,unannounced,due]
    | @stoppedAtRest _ _ _ time looked notes early rested announced =>
      rw [looked.undecidedRounds (lookupsOf_between notes time rested.exchanges_eq)]
      simp [looked.unannounced,rested.unannounced,announced,due]
    | @again _ _ _ later time _ _ looked notes early rested goesOn announced =>
      obtain ⟨replies,undecided,-,rounds⟩ := roundsOf_again looked notes time rested
      rw [undecidedRounds,rounds,List.countP_cons_of_pos (by simpa using undecided),
        Nat.add_comm _ 1,← Nat.add_assoc,← undecidedRounds,← ih goesOn,due]
      simp [looked.unannounced,rested.unannounced,announced,Nat.add_assoc]

theorem check_notices {events : List Event} {verdict : Verdict}
    (trace : Run.Trace (check monitor trial) events verdict) :
    timesGiven waitingMessage events =
      undecidedRounds trial events / max monitor.policy.noticeEvery 1 := by
  rcases trace_check trace with ⟨error,notes,rfl,aside,-⟩ | ⟨tx,started,later,rfl,polled⟩
  · rw [undecidedRounds,roundsOf_refused _ _ error aside]
    simp [aside.unannounced]
  · rw [undecidedRounds,roundsOf_submitted]
    simpa [undecidedRounds,submittedNotice,waitingMessage] using poll_notices polled

/-- How a transaction is waited for by a deadline, by what the ledger replies to it. All it is asked
is in its script. It is given up exactly when no round decides, up to the last one that is made in
time, provided that the attempts can be counted. -/
structure KeepsDeadline (settings : Settings) (deadlineMs : Nat) (trial : Trial)
    (script : TransactionScript) (events : List Event) (verdict : Verdict)
    (started ended : Duration) : Prop where
  exchanges_eq : exchanges events =
    trial.conversation script.submission (script.rounds (roundsOf trial events).length)
  inTime : settings.InTime deadlineMs (roundsOf trial events).length started ended
  refused : ∀ error, script.submission = .error error → verdict = trial.refusal none error
  givesUp_iff : ∀ tx, script.submission = .ok tx →
    (settings.lastRound deadlineMs < maxAttempts ∨ ∃ n < maxAttempts, script.Decides n) →
    ((∃ id attempts waited, verdict = .error (.timedOut id attempts waited)) ↔
      ∀ i ≤ settings.lastRound deadlineMs, ¬script.Decides i)
  gaveUp : ∀ tx, script.submission = .ok tx → settings.lastRound deadlineMs < maxAttempts →
    (∀ i ≤ settings.lastRound deadlineMs, ¬script.Decides i) →
      verdict = .error (.timedOut tx (settings.lastRound deadlineMs + 1)
        (.ofMillis (settings.lastRound deadlineMs * settings.polling.intervalMs))) ∧
      (roundsOf trial events).length = settings.lastRound deadlineMs + 1 ∧
      ended = started.plus
        (.ofMillis (settings.lastRound deadlineMs * settings.polling.intervalMs))

section

variable {settings : Settings} {deadlineMs last : Nat} {script : TransactionScript}
  {events : List Event} {verdict : Verdict}

theorem keepsDeadline_of_refused {error : LedgerError} {started : Duration}
    (accepted : settings.check = .ok ()) (conversed : trial.Conversed (.error error) events)
    (submitted : .error error = script.submission) :
    KeepsDeadline settings deadlineMs trial script events (trial.refusal none error) started
      started := by
  have roundless := conversed.roundless error rfl
  constructor
  case exchanges_eq =>
    rw [conversed.exchanges_eq,← submitted]
    rfl
  case inTime =>
    have moves := Settings.interval_pos accepted
    rw [roundless]
    exact ⟨Nat.zero_le _,Nat.lt_add_of_pos_right (Nat.mul_pos (by omega) (by decide))⟩
  case refused =>
    intro other failed
    rw [← submitted] at failed
    rw [Except.error.inj failed]
  case givesUp_iff | gaveUp =>
    intro tx taken
    rw [← submitted] at taken
    contradiction

theorem keepsDeadline_of_waited {started : Duration} (accepted : settings.check = .ok ())
    (limited : settings.polling.deadlineMs = some deadlineMs)
    (conversed : trial.Conversed (.ok tx) events) (submitted : .ok tx = script.submission)
    (scripted : roundsOf trial events = script.rounds (roundsOf trial events).length)
    (waited : Waited settings.policy (·.verdict? trial settings.markers tx)
      (givesUp ⟨settings.policy,settings.markers⟩ tx) 0 (roundsOf trial events) verdict last) :
    KeepsDeadline settings deadlineMs trial script events verdict started
      ⟨started.nanos + last * settings.policy.interval.nanos⟩ := by
  have moves := Settings.policy_moves accepted
  have deadline := Settings.policy_deadline limited
  have lastRound := Settings.policy_lastRound accepted deadlineMs
  have gaveUp (counted : settings.lastRound deadlineMs < maxAttempts)
      (undecided : ∀ i ≤ settings.lastRound deadlineMs, ¬script.Decides i) :
      verdict = .error (.timedOut tx (settings.lastRound deadlineMs + 1)
          (.ofMillis (settings.lastRound deadlineMs * settings.polling.intervalMs))) ∧
        last = settings.lastRound deadlineMs ∧
        (roundsOf trial events).length = settings.lastRound deadlineMs + 1 := by
    rw [← lastRound] at counted undecided
    have gaveUp := @gaveUpAt ⟨settings.policy,settings.markers⟩ _ _ _ _ _ _ waited scripted moves
      _ deadline counted undecided
    rwa [lastRound,settings.policy_intervals] at gaveUp
  constructor
  case exchanges_eq => rw [conversed.exchanges_eq,← submitted,← scripted]
  case inTime => exact waited.within accepted limited started
  case refused =>
    intro error failed
    rw [← submitted] at failed
    contradiction
  case gaveUp =>
    intro tx' taken counted undecided
    obtain rfl : tx = tx' := Except.ok.inj (submitted.trans taken)
    obtain ⟨ends,rfl,length⟩ := gaveUp counted undecided
    refine ⟨ends,length,?_⟩
    rw [settings.policy_intervals]
    rfl
  case givesUp_iff =>
    intro tx' taken counted
    constructor
    · rintro ⟨id,attempts,length,gaveUp⟩ i reached decides
      obtain ⟨n,before,first⟩ := TransactionScript.exists_decidesFirst decides
      have early : n < maxAttempts := by
        rcases counted with counted | ⟨m,counted,decides⟩
        · omega
        · exact Nat.lt_of_le_of_lt (Nat.le_of_not_lt fun sooner => first.2 m sooner decides) counted
      have inTime : ∀ limit, settings.policy.deadline = some limit →
          n ≤ settings.policy.lastRound limit := by
        intro limit same
        obtain rfl := Option.some.inj (deadline.symm.trans same)
        omega
      have decided := (@decidedAt ⟨settings.policy,settings.markers⟩ _ _ _ _ _ _ waited scripted
        moves _ first early inTime).1
      exact (RoundReplies.judged_of_verdict? decided.symm).2 id attempts length gaveUp
    · intro undecided
      refine ⟨tx,_,_,(gaveUp ?_ undecided).1⟩
      rcases counted with counted | ⟨n,counted,decides⟩
      · exact counted
      · exact Nat.lt_trans (Nat.lt_of_not_le fun early => undecided n early decides) counted

theorem keepsDeadline (accepted : settings.check = .ok ())
    (limited : settings.polling.deadlineMs = some deadlineMs) {σ : Type}
    (surroundings : Surroundings σ) {world : World σ} (quiet : world.timeline.Quiet)
    (trial : Trial) :
    let run := check ⟨settings.policy,settings.markers⟩ trial
    KeepsDeadline settings deadlineMs trial (surroundings.script trial world.ledger)
      (surroundings.history run world) (surroundings.play run world).1 world.timeline.now
      (surroundings.play run world).2.timeline.now := by
  intro run
  have follows := follows_exchanges (surroundings.follows_history run world)
  rcases check_waited surroundings quiet ⟨settings.policy,settings.markers⟩ trial with
    ⟨error,conversed,refused,ended⟩ | ⟨tx,last,conversed,waited,ended⟩
  · rw [refused,ended]
    exact keepsDeadline_of_refused accepted conversed (conversed.scripted follows).1
  · rw [ended]
    obtain ⟨submitted,scripted⟩ := conversed.scripted follows
    exact keepsDeadline_of_waited accepted limited conversed submitted scripted waited

end

end Monitor

end LedgerRehearsal
