import LedgerRehearsal.Proofs.Monitor.Deadline

/-! Waiting until the ledger is well. It is asked for its health and for nothing else, so how it
answers one check after another tells how the wait ends. This wait and that for a transaction keep
the deadline of the settings in the same way. -/
namespace LedgerRehearsal

/-- The report that the ledger is still waited for. -/
def readinessMessage : String := "Still waiting for the ledger"

/-- The result of one health check. -/
abbrev Health := Except LedgerError Unit

namespace Health

/-- A check that succeeds ends the wait. -/
def settles : Health → Option Health
  | .ok _ => some (.ok ())
  | .error _ => none

/-- What is reported when the check of round `i` was the last one. -/
def givesUp (i : Nat) : Health → Health
  | .ok _ => .ok ()
  | .error error => .error (.transport s!"ledger not ready after {i + 1} attempts: {error.message}")

end Health

def Exchange.health? : Exchange → Option Health
  | ⟨.health,reply⟩ => some reply
  | _ => none

/-- The health checks of a run. -/
def checksOf (events : List Event) : List Health := (exchanges events).filterMap Exchange.health?

@[simp] theorem checksOf_nil : checksOf [] = [] := rfl

@[simp] theorem checksOf_append (first rest : List Event) :
    checksOf (first ++ rest) = checksOf first ++ checksOf rest := by simp [checksOf]

@[simp] theorem checksOf_health (reply : Health) (events : List Event) :
    checksOf (⟨.ask .health,reply⟩ :: events) = reply :: checksOf events := rfl

@[simp] theorem checksOf_other (effect : Effect) (answer : effect.Answer) (events : List Event)
    (other : ∀ request, effect ≠ .ask request) :
    checksOf (⟨effect,answer⟩ :: events) = checksOf events := by
  rw [checksOf,exchanges_other effect answer events other,checksOf]

theorem OnlyNotes.checksOf_eq {notes : List Event} (only : OnlyNotes notes) : checksOf notes = [] := by
  rw [checksOf,only.exchanges_eq,List.filterMap_nil]

/-- The cases of a health check with `fuel` more to come. -/
inductive HealthCheck (policy : PollPolicy) (started : Duration) (attempts fuel : Nat) :
    List Event → Health → Prop where
  | ready {notes : List Event} :
      OnlyNotes notes → timesGiven readinessMessage notes = 0 →
      HealthCheck policy started attempts fuel (⟨.ask .health,.ok ()⟩ :: notes) (.ok ())
  | gaveUp {error : LedgerError} {notes : List Event} {time : Duration} :
      OnlyNotes notes →
      timesGiven readinessMessage notes = (if policy.noticeDue (attempts + 1) then 1 else 0) →
      policy.isOver (time.since started) = true →
      HealthCheck policy started attempts fuel
        (⟨.ask .health,.error error⟩ :: (notes ++ [⟨.now,time⟩]))
        (Health.givesUp attempts (.error error))
  | again {error : LedgerError} {notes later : List Event} {time : Duration} {result : Health} :
      OnlyNotes notes →
      timesGiven readinessMessage notes = (if policy.noticeDue (attempts + 1) then 1 else 0) →
      policy.isOver (time.since started) = false →
      Run.Trace (awaitHealth policy started (attempts + 1) fuel) later result →
      HealthCheck policy started attempts fuel
        (⟨.ask .health,.error error⟩ ::
          (notes ++ ⟨.now,time⟩ :: ⟨.sleep policy.interval,()⟩ :: later)) result

variable {policy : PollPolicy} {started : Duration} {attempts fuel : Nat} {events : List Event}
  {result : Health}

theorem trace_awaitHealth_zero
    (trace : Run.Trace (awaitHealth policy started attempts 0) events result) : events = [] :=
  ((Run.trace_done _ _ _).mp trace).1

theorem trace_awaitHealth
    (trace : Run.Trace (awaitHealth policy started attempts (fuel + 1)) events result) :
    HealthCheck policy started attempts fuel events result := by
  unfold awaitHealth at trace
  obtain ⟨reply,_,rfl,checked⟩ := (Run.trace_ask_bind _ _ _ _).mp trace
  split at checked
  · obtain ⟨_,rfl,last⟩ := (Run.trace_note_bind _ _ _ _ _ _).mp checked
    obtain ⟨rfl,rfl⟩ := (Run.trace_pure _ _ _).mp last
    exact .ready (by simp) (by simp [readinessMessage])
  · rename_i error
    obtain ⟨notes,_,rfl,only,timed,announced⟩ := Run.trace_note_if checked
    obtain ⟨time,_,rfl,timeUp⟩ := (Run.trace_perform_bind .now _ _ _).mp timed
    split at timeUp
    · rename_i expired
      obtain ⟨rfl,rfl⟩ := (Run.trace_pure _ _ _).mp timeUp
      exact .gaveUp only announced expired
    · rename_i early
      obtain ⟨_,later,rfl,goesOn⟩ := (Run.trace_perform_bind (.sleep policy.interval) _ _ _).mp timeUp
      exact .again only announced (Bool.eq_false_iff.mpr early) goesOn

/-- How many checks failed. -/
def failedChecks (events : List Event) : Nat := (checksOf events).countP fun health => !health.isOk

/-- A notice is given after every so many failed checks. -/
theorem awaitHealth_notices
    (trace : Run.Trace (awaitHealth policy started attempts fuel) events result) :
    attempts / max policy.noticeEvery 1 + timesGiven readinessMessage events =
      (attempts + failedChecks events) / max policy.noticeEvery 1 := by
  induction fuel generalizing attempts events with
  | zero =>
    obtain rfl := trace_awaitHealth_zero trace
    rfl
  | succ fuel ih =>
    have due := policy.notices_succ attempts
    cases trace_awaitHealth trace with
    | ready only unannounced =>
      simp [unannounced,failedChecks,only.checksOf_eq,Except.isOk,Except.toBool]
    | gaveUp only announced expired =>
      simp [announced,failedChecks,only.checksOf_eq,Except.isOk,Except.toBool,due]
    | again only announced early goesOn =>
      have later := ih goesOn
      rw [due,Nat.add_assoc] at later
      simpa [announced,failedChecks,only.checksOf_eq,Except.isOk,Except.toBool,Nat.add_comm,
        Nat.add_left_comm,Nat.add_assoc] using later

theorem waitUntilReady_notices
    (trace : Run.Trace (waitUntilReady policy).run events result) :
    timesGiven readinessMessage events = failedChecks events / max policy.noticeEvery 1 := by
  obtain ⟨started,later,rfl,waited⟩ := (Run.trace_perform_bind .now _ _ _).mp trace
  simpa [failedChecks] using awaitHealth_notices waited

/-- Nothing but health is asked for. -/
theorem awaitHealth_exchanges
    (trace : Run.Trace (awaitHealth policy started attempts fuel) events result) :
    exchanges events = (checksOf events).map fun health => ⟨.health,health⟩ := by
  induction fuel generalizing attempts events with
  | zero =>
    obtain rfl := trace_awaitHealth_zero trace
    rfl
  | succ fuel ih =>
    cases trace_awaitHealth trace with
    | ready only | gaveUp only => simp [only.exchanges_eq,only.checksOf_eq]
    | again only _ _ goesOn => simp [only.exchanges_eq,only.checksOf_eq,ih goesOn]

theorem waitUntilReady_exchanges
    (trace : Run.Trace (waitUntilReady policy).run events result) :
    exchanges events = (checksOf events).map fun health => ⟨.health,health⟩ := by
  obtain ⟨started,later,rfl,waited⟩ := (Run.trace_perform_bind .now _ _ _).mp trace
  simpa using awaitHealth_exchanges waited

/-- The result of the check after `n` other ones. -/
def Surroundings.healthAfter {σ : Type} (surroundings : Surroundings σ) : Nat → σ → Health
  | 0, ledger => (surroundings.reply .health ledger).1
  | n + 1, ledger => surroundings.healthAfter n (surroundings.reply .health ledger).2

theorem healthAfter_of_follows {σ : Type} {surroundings : Surroundings σ} {checks : List Health}
    {ledger final : σ}
    (follows : Follows surroundings.reply (checks.map fun health => ⟨.health,health⟩) ledger final)
    {n : Nat} {health : Health} (checked : checks[n]? = some health) :
    health = surroundings.healthAfter n ledger := by
  induction checks generalizing ledger n with
  | nil => simp at checked
  | cons first checks ih =>
    obtain ⟨shown,follows⟩ := follows
    cases n with
    | zero =>
      obtain rfl : first = health := by simpa using checked
      exact shown
    | succ n => exact ih follows (by simpa using checked)

/-- A wait for the ledger takes an interval for each failed check but the last. -/
theorem awaitHealth_waited {i : Nat} {allowed : Signal → Prop} {dated : List Dated}
    {moment final : Moment}
    (trace : Run.Trace (awaitHealth policy started i fuel) (dated.map Dated.event) result)
    (unfolds : Unfolds allowed dated moment [] final) (awake : moment.asleep = ⟨0⟩)
    (now : moment.now = ⟨started.nanos + i * policy.interval.nanos⟩)
    (counted : i + fuel = maxAttempts) :
    ∃ last, Waited policy Health.settles Health.givesUp i (checksOf (dated.map Dated.event)) result
        last ∧
      final.now = ⟨started.nanos + last * policy.interval.nanos⟩ := by
  induction fuel generalizing i dated moment with
  | zero =>
    obtain rfl : i = maxAttempts := counted
    have nothing := trace_awaitHealth_zero trace
    refine ⟨maxAttempts,?_,(unfolds.still (by simp [nothing])).trans now⟩
    rw [nothing]
    exact .exhausted
  | succ fuel ih =>
    generalize dates : dated.map Dated.event = events at trace
    -- Everything up to the look at the clock takes no time.
    have quick {error : LedgerError} {notes : List Event} (only : OnlyNotes notes)
        (time : Duration) :
        ∀ event ∈ ⟨.ask .health,.error error⟩ :: (notes ++ [⟨.now,time⟩]), event.1.Instant := by
      simp only [List.forall_mem_cons,List.forall_mem_append]
      exact ⟨trivial,Monitor.instant_notes only,trivial,nofun⟩
    cases trace_awaitHealth trace with
    | ready only =>
      refine ⟨i,?_,(unfolds.still ?_).trans now⟩
      · rw [checksOf_health,only.checksOf_eq]
        exact .settled rfl
      · rw [dates]
        exact List.forall_mem_cons.mpr ⟨trivial,Monitor.instant_notes only⟩
    | @gaveUp error _ time only _ expired =>
      obtain ⟨-,-,-,answered⟩ :=
        unfolds.instantly (dates.trans (List.append_nil _).symm) awake (quick only time)
      obtain ⟨answering,read,answers⟩ := answered ⟨.now,time⟩ (by simp)
      have reads : time = answering.now := answers
      refine ⟨i,?_,(unfolds.still (dates ▸ quick only time)).trans now⟩
      have expired : policy.isOver ⟨i * policy.interval.nanos⟩ = true := by
        simpa [reads,read,now,Duration.since] using expired
      rw [checksOf_health,checksOf_append,only.checksOf_eq]
      exact .gaveUp rfl expired
    | @again error notes later time _ only _ early goesOn =>
      obtain ⟨first,still,-,answered⟩ := unfolds.instantly
        (show dated.map Dated.event = (⟨.ask .health,.error error⟩ :: (notes ++ [⟨.now,time⟩])) ++
          (⟨.sleep policy.interval,()⟩ :: later) by simp [dates]) awake (quick only time)
      obtain ⟨answering,read,answers⟩ := answered ⟨.now,time⟩ (by simp)
      have reads : time = answering.now := answers
      obtain ⟨second,sleeping,middle,whole,slept⟩ :=
        first.after.sleeping first.more_events first.awake
      have length : sleeping.asleep = policy.interval := whole
      have next : second.middle.now = ⟨started.nanos + (i + 1) * policy.interval.nanos⟩ := by
        rw [middle]
        refine slept.trans ?_
        rw [length,still,now,Duration.plus,Nat.add_assoc,← Nat.succ_mul]
      obtain ⟨last,waited,ended⟩ := ih (by rwa [second.more_events]) second.after second.awake next
        (by omega)
      rw [second.more_events] at waited
      refine ⟨last,?_,ended⟩
      have untimely : policy.isOver ⟨i * policy.interval.nanos⟩ = false := by
        simpa [reads,read,now,Duration.since] using early
      rw [checksOf_health,checksOf_append,only.checksOf_eq]
      exact .again rfl untimely waited

theorem waitUntilReady_waited {σ : Type} (surroundings : Surroundings σ) {world : World σ}
    (quiet : world.timeline.Quiet) (policy : PollPolicy) :
    let events := surroundings.history (waitUntilReady policy).run world
    let played := surroundings.play (waitUntilReady policy).run world
    (∀ n health, (checksOf events)[n]? = some health →
      health = surroundings.healthAfter n world.ledger) ∧
    ∃ last, Waited policy Health.settles Health.givesUp 0 (checksOf events) played.1 last ∧
      played.2.timeline.now = ⟨world.timeline.now.nanos + last * policy.interval.nanos⟩ := by
  intro events played
  have trace : Run.Trace _ events played.1 := surroundings.trace_history _ _
  have follows : Follows _ events world played.2 := surroundings.follows_history _ _
  clear_value events played
  obtain ⟨dated,dates,unfolds⟩ := quiet.unfolds follows
  obtain ⟨started,later,rfl,waited⟩ := (Run.trace_perform_bind .now _ _ _).mp trace
  have asked := awaitHealth_exchanges waited
  obtain ⟨first,still,-,answered⟩ := unfolds.instantly
    (show dated.map Dated.event = [_] ++ later from dates) rfl (by simp [Effect.Instant])
  obtain ⟨answering,now,answers⟩ := answered ⟨.now,started⟩ (by simp)
  have read : started = answering.now := answers
  have begins : first.middle.now = ⟨started.nanos + 0 * policy.interval.nanos⟩ := by
    rw [still,read,now,Nat.zero_mul]
    rfl
  obtain ⟨last,waited,ended⟩ := awaitHealth_waited (by rwa [first.more_events]) first.after
    first.awake begins (Nat.zero_add _)
  rw [first.more_events] at waited
  refine ⟨fun n health checked => ?_,last,waited,ended.trans ?_⟩
  · have replied := follows_exchanges follows
    rw [exchanges_other .now started later (by simp),asked] at replied
    exact healthAfter_of_follows replied (by simpa using checked)
  · rw [read,now]
    rfl

/-- How a ledger is waited for by a deadline, by the results of its health checks one after another:
until the first one that succeeds, or until the last one that is made in time. -/
structure KeepsReadinessDeadline (settings : Settings) (deadlineMs : Nat) (health : Nat → Health)
    (events : List Event) (result : Health) (started ended : Duration) : Prop where
  inTime : settings.InTime deadlineMs (checksOf events).length started ended
  ready_iff : ∀ f, (∀ i < f, ∃ error, health i = .error error) → health f = .ok () →
    (settings.lastRound deadlineMs < maxAttempts ∨ f < maxAttempts) →
      (result = .ok () ↔ f ≤ settings.lastRound deadlineMs)
  ready : ∀ f, (∀ i < f, ∃ error, health i = .error error) → health f = .ok () →
    f ≤ settings.lastRound deadlineMs → f < maxAttempts →
      result = .ok () ∧ (checksOf events).length = f + 1 ∧
      ended = started.plus (.ofMillis (f * settings.polling.intervalMs))
  unready : ∀ error, (∀ i ≤ settings.lastRound deadlineMs, ∃ error, health i = .error error) →
    health (settings.lastRound deadlineMs) = .error error →
    settings.lastRound deadlineMs < maxAttempts →
      result = .error (.transport
        s!"ledger not ready after {settings.lastRound deadlineMs + 1} attempts: {error.message}") ∧
      (checksOf events).length = settings.lastRound deadlineMs + 1 ∧
      ended = started.plus
        (.ofMillis (settings.lastRound deadlineMs * settings.polling.intervalMs))

section

variable {settings : Settings} {deadlineMs last : Nat} {health : Nat → Health}
  {checks : List Health} {result : Health}

/-- The first check that succeeds ends the wait, if it is made in time. -/
theorem Health.ready (waited : Waited settings.policy settles givesUp 0 checks result last)
    (accepted : settings.check = .ok ())
    (limited : settings.polling.deadlineMs = some deadlineMs)
    (shown : ∀ n check, checks[n]? = some check → check = health n) {f : Nat}
    (leading : ∀ i < f, ∃ error, health i = .error error) (healthy : health f = .ok ())
    (reached : f ≤ settings.lastRound deadlineMs) (counted : f < maxAttempts) :
    result = .ok () ∧ last = f ∧ checks.length = f + 1 := by
  have inTime : ∀ deadline, settings.policy.deadline = some deadline →
      f ≤ settings.policy.lastRound deadline := by
    intro deadline limit
    obtain rfl := Option.some.inj ((Settings.policy_deadline limited).symm.trans limit)
    rwa [Settings.policy_lastRound accepted]
  have before : ∀ i < f, settles (health i) = none := by
    intro i earlier
    obtain ⟨error,failed⟩ := leading i earlier
    rw [failed]
    rfl
  have settled : settles (health f) = some (.ok ()) := by
    rw [healthy]
    rfl
  obtain ⟨ends,ended,length⟩ := waited.settledAt (Settings.policy_moves accepted) health
    (fun n check found => by rw [Nat.zero_add,shown n check found]) (Nat.zero_le f) counted inTime
    before settled
  exact ⟨ends,ended,by omega⟩

/-- If all checks in time fail, the last one of them is reported. -/
theorem Health.unready (waited : Waited settings.policy settles givesUp 0 checks result last)
    (accepted : settings.check = .ok ())
    (limited : settings.polling.deadlineMs = some deadlineMs)
    (shown : ∀ n check, checks[n]? = some check → check = health n)
    (failing : ∀ i ≤ settings.lastRound deadlineMs, ∃ error, health i = .error error)
    (counted : settings.lastRound deadlineMs < maxAttempts) :
    result = givesUp (settings.lastRound deadlineMs) (health (settings.lastRound deadlineMs)) ∧
      last = settings.lastRound deadlineMs ∧
      checks.length = settings.lastRound deadlineMs + 1 := by
  have moves := Settings.policy_moves accepted
  have deadline := Settings.policy_deadline limited
  have few := (waited.within accepted limited ⟨0⟩).few
  have unsettled : ∀ check ∈ checks, settles check = none := by
    intro check member
    obtain ⟨n,within,found⟩ := List.getElem_of_mem member
    obtain ⟨error,failed⟩ := failing n (by omega)
    rw [shown n check (List.getElem?_eq_some_iff.mpr ⟨within,found⟩),failed]
    rfl
  obtain ⟨ended,length,check,found,gaveUp⟩ := waited.gaveUpAt deadline moves (Nat.zero_le _)
    (by rwa [Settings.policy_lastRound accepted]) unsettled
  rw [Settings.policy_lastRound accepted] at ended length gaveUp
  rw [List.getLast?_eq_getElem?,
    show checks.length - 1 = settings.lastRound deadlineMs by omega] at found
  rw [shown _ check found] at gaveUp
  exact ⟨gaveUp,ended,by omega⟩

theorem keepsReadinessDeadline (accepted : settings.check = .ok ())
    (limited : settings.polling.deadlineMs = some deadlineMs) {σ : Type}
    (surroundings : Surroundings σ) {world : World σ} (quiet : world.timeline.Quiet) :
    let run := (waitUntilReady settings.policy).run
    KeepsReadinessDeadline settings deadlineMs (surroundings.healthAfter · world.ledger)
      (surroundings.history run world) (surroundings.play run world).1 world.timeline.now
      (surroundings.play run world).2.timeline.now := by
  intro run
  obtain ⟨shown,last,waited,ended⟩ := waitUntilReady_waited surroundings quiet settings.policy
  have intervals (n : Nat) :
      (⟨world.timeline.now.nanos + n * settings.policy.interval.nanos⟩ : Duration) =
        world.timeline.now.plus (.ofMillis (n * settings.polling.intervalMs)) := by
    rw [settings.policy_intervals]
    rfl
  constructor
  case inTime => exact ended ▸ waited.within accepted limited world.timeline.now
  case ready =>
    intro f leading healthy reached counted
    obtain ⟨ends,rfl,length⟩ :=
      Health.ready waited accepted limited shown leading healthy reached counted
    exact ⟨ends,length,ended.trans (intervals last)⟩
  case unready =>
    intro error failing final counted
    obtain ⟨ends,rfl,length⟩ := Health.unready waited accepted limited shown failing counted
    rw [final] at ends
    exact ⟨ends,length,ended.trans (intervals _)⟩
  case ready_iff =>
    intro f leading healthy counted
    refine ⟨fun ends => Nat.le_of_not_lt fun late => ?_,fun reached => ?_⟩
    · have failing : ∀ i ≤ settings.lastRound deadlineMs,
          ∃ error, surroundings.healthAfter i world.ledger = .error error :=
        fun i earlier => leading i (Nat.lt_of_le_of_lt earlier late)
      obtain ⟨gaveUp,-⟩ := Health.unready waited accepted limited shown failing (by omega)
      obtain ⟨error,failed⟩ := failing _ (Nat.le_refl _)
      rw [failed] at gaveUp
      cases ends.symm.trans gaveUp
    · exact (Health.ready waited accepted limited shown leading healthy reached (by omega)).1

end

/-- Both waits ask for their rounds and for nothing else and report every so many unsuccessful rounds
that they go on, whatever they are answered, and both keep the deadline of the settings against every
ledger while nobody uses the stop signal. -/
theorem deadline_kept :
    (∀ monitor trial events verdict, Run.Trace (Monitor.check monitor trial) events verdict →
      (∃ submission, trial.Conversed submission events) ∧
      timesGiven Monitor.waitingMessage events =
        Monitor.undecidedRounds trial events / max monitor.policy.noticeEvery 1) ∧
    (∀ policy events result, Run.Trace (waitUntilReady policy).run events result →
      exchanges events = (checksOf events).map (fun health => ⟨.health,health⟩) ∧
      timesGiven readinessMessage events = failedChecks events / max policy.noticeEvery 1) ∧
    ∀ (settings : Settings) (deadlineMs : Nat), settings.check = .ok () →
      settings.polling.deadlineMs = some deadlineMs →
      ∀ (σ : Type) (surroundings : Surroundings σ) (world : World σ), world.timeline.Quiet →
        (∀ trial,
          let run := Monitor.check ⟨settings.policy,settings.markers⟩ trial
          Monitor.KeepsDeadline settings deadlineMs trial (surroundings.script trial world.ledger)
            (surroundings.history run world) (surroundings.play run world).1 world.timeline.now
            (surroundings.play run world).2.timeline.now) ∧
        let run := (waitUntilReady settings.policy).run
        KeepsReadinessDeadline settings deadlineMs (surroundings.healthAfter · world.ledger)
          (surroundings.history run world) (surroundings.play run world).1 world.timeline.now
          (surroundings.play run world).2.timeline.now :=
  ⟨fun _ _ _ _ trace => ⟨Monitor.check_conversed trace,Monitor.check_notices trace⟩,
    fun _ _ _ trace => ⟨waitUntilReady_exchanges trace,waitUntilReady_notices trace⟩,
    fun _ _ accepted limited _ surroundings _ quiet =>
      ⟨Monitor.keepsDeadline accepted limited surroundings quiet,
        keepsReadinessDeadline accepted limited surroundings quiet⟩⟩

/-- Settings that let a wait go on for a quarter of a second. -/
def quarterSecond : Settings :=
  ⟨⟨"http://ledger","net",1000⟩,⟨"k","root"⟩,⟨100,2,some 250⟩,["error"]⟩

/-- A ledger that is never well and commits nothing. -/
def deaf : Surroundings Unit :=
  ⟨fun request _ => (match request with
    | .submit .. => .ok "tx"
    | .lookup .. => .ok []
    | .health | .createDatabase _ | .connect _ => .error (.transport "refused")
    | .submitAndWait .. | .query .. => .error (.transport "refused"),()),fun _ _ => [],fun _ => ""⟩

theorem deaf_healthAfter (n : Nat) : deaf.healthAfter n () = .error (.transport "refused") := by
  induction n with
  | zero => rfl
  | succ n ih => exact ih

theorem deaf_undecided (trial : Trial) (i : Nat) : ¬(deaf.script trial ()).Decides i := by
  rintro (shown | ⟨error,failed⟩)
  · exact shown rfl
  · cases failed

/-- Such a ledger is given up after four rounds, at the first one that is not before the deadline, and
so is every transaction. -/
theorem quarterSecond_kept :
    let ready := deaf.play (waitUntilReady quarterSecond.policy).run (.start () [])
    (ready.1 = .error
        (.transport "ledger not ready after 4 attempts: Ledger transport error: refused") ∧
      ready.2.timeline.now = .ofMillis 300) ∧
    ∀ trial,
      let run := Monitor.check ⟨quarterSecond.policy,quarterSecond.markers⟩ trial
      let checked := deaf.play run (.start () [])
      checked.1 = .error (.timedOut "tx" 4 (.ofMillis 300)) ∧
        checked.2.timeline.now = .ofMillis 300 ∧
        (roundsOf trial (deaf.history run (.start () []))).length = 4 := by
  obtain ⟨checked,ready⟩ := deadline_kept.2.2 quarterSecond 250 rfl rfl _ deaf (.start () []) ⟨rfl,rfl⟩
  obtain ⟨result,-,ended⟩ := ready.unready _ (fun i _ => ⟨_,deaf_healthAfter i⟩) (deaf_healthAfter _)
    (by decide)
  refine ⟨⟨result,ended⟩,fun trial => ?_⟩
  obtain ⟨verdict,rounds,ended⟩ :=
    (checked trial).gaveUp "tx" rfl (by decide) fun i _ => deaf_undecided trial i
  exact ⟨verdict,ended,rounds⟩

end LedgerRehearsal
