import LedgerRehearsal.Proofs.Monitor.Pace
import LedgerRehearsal.Proofs.Monitor.Stopping

/-! How far apart the rounds of a monitored transaction are. A rest is over early when the stop
signal is used, whatever for: each use can make one round follow the one before it at once, and
nothing else can. -/
namespace LedgerRehearsal

/-- The first of each two. -/
def everyOther {α : Type} : List α → List α
  | [] => []
  | [item] => [item]
  | item :: _ :: rest => item :: everyOther rest

theorem length_everyOther {α : Type} (items : List α) :
    (everyOther items).length = (items.length + 1) / 2 := by
  induction items using everyOther.induct with
  | case1 => simp [everyOther]
  | case2 item => simp [everyOther]
  | case3 item other rest ih =>
    simp only [everyOther,List.length_cons,ih]
    omega

/-- The times of the lookups. -/
def lookupTimes (dated : List Dated) : List Duration :=
  dated.filterMap fun dated => match dated.event with
    | ⟨.ask (.lookup ..),_⟩ => some dated.time
    | _ => none

@[simp] theorem lookupTimes_append (first rest : List Dated) :
    lookupTimes (first ++ rest) = lookupTimes first ++ lookupTimes rest := List.filterMap_append

theorem length_lookupTimes (dated : List Dated) :
    (lookupTimes dated).length = (lookupsOf (dated.map Dated.event)).length := by
  induction dated with
  | nil => rfl
  | cons first dated ih =>
    rw [← List.singleton_append,List.map_append,lookupTimes_append,lookupsOf_append,
      List.length_append,List.length_append,ih]
    congr 1
    obtain ⟨time,effect,answer⟩ := first
    cases effect with
    | ask request => cases request <;> rfl
    | _ => rfl

theorem lookupTimes_silent {dated : List Dated}
    (silent : exchanges (dated.map Dated.event) = []) : lookupTimes dated = [] :=
  List.length_eq_zero_iff.mp (by rw [length_lookupTimes,lookupsOf_silent silent,List.length_nil])

/-- Lookups at one time. -/
theorem lookupTimes_still {dated : List Dated} {time : Duration}
    (still : ∀ one ∈ dated, one.time = time) :
    lookupTimes dated = List.replicate (lookupsOf (dated.map Dated.event)).length time := by
  refine List.eq_replicate_iff.mpr ⟨length_lookupTimes dated,fun shown member => ?_⟩
  obtain ⟨⟨when,effect,answer⟩,within,given⟩ := List.mem_filterMap.mp member
  obtain rfl : when = time := still _ within
  dsimp only at given
  split at given
  · exact (Option.some.inj given).symm
  · contradiction

theorem Part.lookupTimes_eq {allowed : Signal → Prop} {dated : List Dated} {moment final : Moment}
    {events rest : List Event} (part : Part allowed dated moment final events rest) :
    lookupTimes dated = lookupTimes part.past ++ lookupTimes part.more := by
  rw [← lookupTimes_append,← part.whole]

/-- The times at which the rounds begin. -/
def roundTimes (dated : List Dated) : List Duration := everyOther (lookupTimes dated)

theorem length_roundTimes (dated : List Dated) :
    (roundTimes dated).length = ((lookupsOf (dated.map Dated.event)).length + 1) / 2 := by
  rw [roundTimes,length_everyOther,length_lookupTimes]

/-- How many times of a list come less than an interval after the one before them. -/
def shortGaps (interval : Duration) : List Duration → Nat
  | first :: second :: rest =>
    shortGaps interval (second :: rest) + if second.nanos < (first.plus interval).nanos then 1 else 0
  | _ => 0

/-- A list of at most one time has no gap. -/
theorem shortGaps_of_single {interval : Duration} {times : List Duration} (few : times.length ≤ 1) :
    shortGaps interval times = 0 := by
  match times with
  | [] | [_] => rfl
  | _ :: _ :: _ => simp at few

namespace Monitor

variable {monitor : Monitor} {trial : Trial} {tx : TxId}

/-- How often a run that listens can still be woken until the stop signal is as it is at the end. -/
def wakesLeft (seen : Option Nat) (channel : Channel) : Nat :=
  match seen with
  | some version => channel.version - version + if channel.isOpen then 0 else 1
  | none => 0

/-- Each round that comes early takes a wake. -/
theorem Resumes.wakesLeft {policy : PollPolicy} {before after : Moment} {seen next : Option Nat}
    {channel : Channel} (resumes : Resumes policy before after seen next)
    (later : after.channel.Later channel) :
    wakesLeft next channel +
        (if after.now.nanos < (before.now.plus policy.interval).nanos then 1 else 0) ≤
      wakesLeft seen channel := by
  have once : (if after.now.nanos < (before.now.plus policy.interval).nanos then 1 else 0) ≤ 1 := by
    split <;> simp
  cases resumes with
  | slept _ now => simp [now]
  | changed unheard made =>
    have counted := later.version
    simp only [Monitor.wakesLeft]
    omega
  | closed version closed =>
    have dropped : channel.isOpen = false := Bool.eq_false_iff.mpr fun listening => by
      rw [later.dropped listening] at closed
      contradiction
    simp only [Monitor.wakesLeft,dropped]
    exact Nat.le_trans (Nat.zero_add _ ▸ once) (Nat.le_add_left 1 _)

/-- Both lookups of a round that decides nothing. -/
theorem Looked.length_lookups {lookups notes : List Event} {time : Duration}
    (looked : Looked monitor trial tx lookups none) (only : OnlyNotes notes) :
    (lookupsOf (⟨.stopRequested,false⟩ :: (lookups ++ (notes ++ [⟨.now,time⟩])))).length = 2 := by
  obtain _ | _ | own | _ := looked
  have silent := lookupsOf_between only time exchanges_nil
  simp [silent]

/-- A wait that has any round begins with one. -/
theorem trace_poll_begins {started : Duration} {attempts fuel : Nat} {seen : Option Nat}
    {events : List Event} {verdict : Verdict}
    (trace : Run.Trace (poll monitor trial tx started attempts seen fuel) events verdict) :
    exchanges events = [] ∨ ∃ found tail,
      events = ⟨.stopRequested,false⟩ :: ⟨.ask (.lookup trial.privileged tx),found⟩ :: tail := by
  cases fuel with
  | zero => exact .inl (trace_poll_zero trace).1.exchanges_eq
  | succ fuel =>
    cases trace_poll trace with
    | stopped => exact .inl rfl
    | decided looked | timedOut looked | stoppedAtRest looked | again looked =>
      obtain ⟨found,tail,rfl⟩ := looked.head
      exact .inr ⟨found,_,rfl⟩

/-- The first round of a wait begins at once. -/
theorem poll_first {started : Duration} {attempts fuel : Nat} {seen : Option Nat}
    {allowed : Signal → Prop} {dated : List Dated} {moment final : Moment} {verdict : Verdict}
    (trace : Run.Trace (poll monitor trial tx started attempts seen fuel) (dated.map Dated.event)
      verdict)
    (unfolds : Unfolds allowed dated moment [] final) (awake : moment.asleep = ⟨0⟩) :
    ∀ time ∈ (roundTimes dated).head?, time = moment.now := by
  rcases trace_poll_begins trace with silent | ⟨found,tail,begins⟩
  · simp [roundTimes,lookupTimes_silent silent,everyOther]
  · obtain ⟨first,-,times,-⟩ := unfolds.instantly
      (show dated.map Dated.event = [_,_] ++ tail from begins) awake (by simp [Effect.Instant])
    have asked : lookupTimes first.past = [moment.now] := by
      rw [lookupTimes_still times,first.past_events,lookupsOf_other _ _ _ (by simp)]
      rfl
    rw [roundTimes,first.whole,lookupTimes_append,asked]
    rcases lookupTimes first.more with _ | ⟨second,more⟩ <;> simp [everyOther]

/-- In a single round there is no gap. -/
theorem shortGaps_of_singleRound {interval : Duration} {dated : List Dated}
    (single : (lookupsOf (dated.map Dated.event)).length ≤ 2) :
    shortGaps interval (roundTimes dated) = 0 :=
  shortGaps_of_single (by rw [length_roundTimes]; omega)

/-- A round consists of at most two lookups. -/
theorem Looked.length_le {lookups rest : List Event} {result : Option Verdict}
    (looked : Looked monitor trial tx lookups result) (silent : lookupsOf rest = []) :
    (lookupsOf (⟨.stopRequested,false⟩ :: (lookups ++ rest))).length ≤ 2 := by
  cases looked <;> simp [silent]

/-- Rounds follow each other at once no more often than the stop signal is used. -/
theorem poll_spacing {started : Duration} {attempts fuel : Nat} {seen : Option Nat}
    {allowed : Signal → Prop} {dated : List Dated} {moment final : Moment} {verdict : Verdict}
    (trace : Run.Trace (poll monitor trial tx started attempts seen fuel) (dated.map Dated.event)
      verdict)
    (unfolds : Unfolds allowed dated moment [] final) (awake : moment.asleep = ⟨0⟩)
    (heard : Heard seen moment.channel) :
    shortGaps monitor.policy.interval (roundTimes dated) ≤ wakesLeft seen final.channel := by
  induction fuel generalizing attempts seen dated moment with
  | zero =>
    rw [shortGaps_of_singleRound]
    · exact Nat.zero_le _
    · rw [lookupsOf_silent (trace_poll_zero trace).1.exchanges_eq]
      exact Nat.zero_le 2
  | succ fuel ih =>
    generalize dates : dated.map Dated.event = events at trace
    have last (single : (lookupsOf events).length ≤ 2) :
        shortGaps monitor.policy.interval (roundTimes dated) ≤ wakesLeft seen final.channel := by
      rw [shortGaps_of_singleRound (dates ▸ single)]
      exact Nat.zero_le _
    cases trace_poll trace with
    | stopped => exact last (Nat.zero_le 2)
    | decided looked notes =>
      exact last (looked.length_le (lookupsOf_silent notes.exchanges_eq))
    | @timedOut _ _ _ time looked notes expired gaveUp =>
      exact last (looked.length_le (lookupsOf_between notes time gaveUp.exchanges_eq))
    | @stoppedAtRest _ _ _ time looked notes early rested =>
      exact last (looked.length_le (lookupsOf_between notes time rested.exchanges_eq))
    | again looked notes early rested goesOn =>
      obtain ⟨-,round,gap,times,still,resumes⟩ :=
        looked.paced notes rested unfolds dates awake heard
      have heard := resumes.heard (heard.later round.during.later) gap.during.later
      have goesOn := gap.more_events ▸ goesOn
      have first := poll_first goesOn gap.after gap.awake
      have rest := ih goesOn gap.after gap.awake heard
      have looking : lookupTimes round.past = [moment.now,moment.now] := by
        rw [lookupTimes_still times,round.past_events,looked.length_lookups notes]
        rfl
      have resting : lookupTimes gap.past = [] := by
        refine lookupTimes_silent ?_
        rw [gap.past_events,rested.exchanges_eq]
      have begins : roundTimes dated = round.middle.now :: roundTimes gap.more := by
        rw [roundTimes,round.lookupTimes_eq,gap.lookupTimes_eq,looking,resting,still]
        rfl
      rw [begins]
      cases more : roundTimes gap.more with
      | nil => exact Nat.zero_le _
      | cons second later =>
        rw [more] at first rest
        obtain rfl : second = gap.middle.now := first second rfl
        exact Nat.le_trans (Nat.add_le_add_right rest _) (resumes.wakesLeft gap.after.later)

/-- Two rounds in a row are an interval apart, but for as many as the stop signal was used: the
settings that were made before the transaction was submitted are heard at its first rest. -/
theorem check_spacing {allowed : Signal → Prop} {dated : List Dated} {start final : Moment}
    {verdict : Verdict} (trace : Run.Trace (check monitor trial) (dated.map Dated.event) verdict)
    (unfolds : Unfolds allowed dated start [] final) (awake : start.asleep = ⟨0⟩) :
    shortGaps monitor.policy.interval (roundTimes dated) ≤
      final.channel.version + if final.channel.isOpen then 0 else 1 := by
  generalize dates : dated.map Dated.event = events at trace
  rcases trace_check trace with ⟨error,notes,rfl,aside,-⟩ | ⟨tx,started,later,rfl,polled⟩
  · rw [shortGaps_of_singleRound]
    · exact Nat.zero_le _
    · rw [dates,lookupsOf_submit,lookupsOf_silent aside.exchanges_eq]
      exact Nat.zero_le 2
  · obtain ⟨first,-⟩ := unfolds.instantly (show dated.map Dated.event = [_,_,_] ++ later from dates)
      awake (by simp [Effect.Instant])
    have unlooked : lookupTimes first.past = [] :=
      List.length_eq_zero_iff.mp (by rw [length_lookupTimes,first.past_events]; rfl)
    have spaced := poll_spacing (first.more_events ▸ polled) first.after first.awake
      (by simp [Heard])
    rw [roundTimes,first.lookupTimes_eq,unlooked]
    exact spaced

/-- The owner of the stop signal drops it during a rest. The transaction is committed by then. -/
def droppedRest : List Dated :=
  firstRound ++
    [⟨.ofMillis 30,.rest (.ofMillis 100) 0,.closed⟩,⟨.ofMillis 30,.stopRequested,false⟩,
      ⟨.ofMillis 30,.ask (.lookup wantedWrite.privileged "tx"),.ok [.object []]⟩,
      ⟨.ofMillis 30,.ask (.lookup wantedWrite.submitter "tx"),.ok [.object []]⟩,
      ⟨.ofMillis 30,.note ⟨.debug,"Transaction committed",[("tx_id","tx"),("attempts","1")]⟩,()⟩]

theorem trace_droppedRest : Run.Trace (check patient wantedWrite)
    (droppedRest.map Dated.event) (.ok (.committed "tx" (.object []))) :=
  .act (.act (.act (.act (.act (.act (.act (.act (.act (.act (.act (.act .done)))))))))))

theorem unfolds_droppedRest : Unfolds (· ≠ .set true) droppedRest
    ⟨.ofMillis 0,.initial,.ofMillis 0⟩ [] ⟨.ofMillis 30,⟨false,0,false⟩,.ofMillis 0⟩ :=
  .answer rfl trivial (.answer rfl trivial (.answer rfl rfl (.answer rfl rfl (.answer rfl trivial
    (.answer rfl trivial (.answer rfl rfl (.pass (.ofMillis 30) ⟨rfl,by decide⟩
      (.signal .drop (by decide) (.answer rfl rfl (.answer rfl rfl (.answer rfl trivial
        (.answer rfl trivial (.answer rfl trivial .here)))))))))))))

theorem droppedRest_spacing :
    shortGaps patient.policy.interval (roundTimes droppedRest) ≤ 0 + 1 :=
  check_spacing trace_droppedRest unfolds_droppedRest rfl

/-- The round after the drop comes at once. -/
theorem droppedRest_tooEarly :
    ¬∀ (monitor : Monitor) (trial : Trial) (dated : List Dated) (start final : Moment)
      (verdict : Verdict), start.channel.value = false → start.asleep = ⟨0⟩ →
      Run.Trace (check monitor trial) (dated.map Dated.event) verdict →
      Unfolds (· ≠ .set true) dated start [] final →
      shortGaps monitor.policy.interval (roundTimes dated) = 0 := by
  intro spaced
  have apart := spaced patient wantedWrite droppedRest _ _ _ rfl rfl trace_droppedRest
    unfolds_droppedRest
  have early : shortGaps patient.policy.interval (roundTimes droppedRest) = 1 := rfl
  rw [early] at apart
  contradiction

end Monitor

end LedgerRehearsal
