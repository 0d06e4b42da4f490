import LedgerRehearsal.Proofs.Moment
import LedgerRehearsal.Proofs.Monitor.Iteration

/-! The time that an iteration takes. Its round takes none, and a rest takes an interval unless the
stop signal ends it early. -/
namespace LedgerRehearsal

/-- The part of a run that comes first, with the moment after it. -/
structure Part (allowed : Signal → Prop) (dated : List Dated) (moment final : Moment)
    (events rest : List Event) where
  past : List Dated
  more : List Dated
  middle : Moment
  whole : dated = past ++ more
  past_events : past.map Dated.event = events
  more_events : more.map Dated.event = rest
  during : Unfolds allowed dated moment more middle
  after : Unfolds allowed more middle [] final
  awake : middle.asleep = ⟨0⟩

/-- A part that is followed by another one. -/
def Part.andThen {allowed : Signal → Prop} {dated : List Dated} {moment final : Moment}
    {events more rest : List Event} (first : Part allowed dated moment final events (more ++ rest))
    (second : Part allowed first.more first.middle final more rest) :
    Part allowed dated moment final (events ++ more) rest where
  past := first.past ++ second.past
  more := second.more
  middle := second.middle
  whole := by rw [List.append_assoc,← second.whole,← first.whole]
  past_events := by rw [List.map_append,first.past_events,second.past_events]
  more_events := second.more_events
  during := first.during.trans second.during
  after := second.after
  awake := second.awake

namespace Unfolds

variable {allowed : Signal → Prop} {dated : List Dated} {moment final : Moment}

/-- If nobody may use the stop signal, it stays as it is. -/
theorem untouched {left : List Dated} (unfolds : Unfolds (fun _ => False) dated moment left final) :
    final.channel = moment.channel :=
  (unfolds.answered (· = moment.channel) (fun _ _ impossible => impossible.elim) rfl).1

/-- The stop signal is read as it was at first if nobody sets it to the other value. -/
theorem requested_steady (unfolds : Unfolds allowed dated moment [] final) (value : Bool)
    (given : moment.channel.value = value) (others : ∀ signal, allowed signal → signal ≠ .set !value) :
    ⟨.stopRequested,!value⟩ ∉ dated.map Dated.event := by
  obtain ⟨-,past,whole,answered⟩ := unfolds.answered (fun channel => channel.value = value)
    (fun channel signal permitted held => Channel.deliver_value (others signal permitted) held) given
  obtain rfl : dated = past := by simpa using whole
  intro member
  obtain ⟨⟨time,event⟩,member,rfl⟩ := List.mem_map.mp member
  obtain ⟨middle,held,-,answers⟩ := answered _ member
  have read : (!value) = middle.channel.value := answers
  rw [held] at read
  cases value <;> contradiction

/-- If no event takes time, the clock stays where it stands. -/
theorem still {left : List Dated} (unfolds : Unfolds allowed dated moment left final)
    (instant : ∀ event ∈ dated.map Dated.event, event.1.Instant) : final.now = moment.now := by
  refine unfolds.now_eq (fun _ => True) (fun _ _ _ _ => trivial) trivial ?_
  intro ⟨time,effect,reply⟩ member middle _ length sleeps
  have quick : effect.Instant := instant _ (List.mem_map_of_mem member)
  cases effect with
  | sleep | rest => exact quick
  | _ => exact sleeps

/-- Effects that take no time are answered where the clock stands. -/
theorem instantly {quick rest : List Event} (unfolds : Unfolds allowed dated moment [] final)
    (dates : dated.map Dated.event = quick ++ rest) (awake : moment.asleep = ⟨0⟩)
    (instant : ∀ event ∈ quick, event.1.Instant) :
    ∃ part : Part allowed dated moment final quick rest, part.middle.now = moment.now ∧
      (∀ dated ∈ part.past, dated.time = moment.now) ∧
      ∀ event ∈ quick, ∃ answering : Moment, answering.now = moment.now ∧ answering.Answers event := by
  obtain ⟨past,more,rfl,rfl,rfl⟩ := List.map_eq_append_iff.mp dates
  obtain ⟨middle,during,after,now,awake,each⟩ :=
    unfolds.instants awake fun dated member => instant _ (List.mem_map_of_mem member)
  refine ⟨⟨past,more,middle,rfl,rfl,rfl,during,after,awake⟩,now,
    fun dated member => (each dated member).1,fun event member => ?_⟩
  obtain ⟨dated,within,rfl⟩ := List.mem_map.mp member
  exact (each dated within).2

/-- The clock goes on for as long as the run sleeps before the next event. -/
theorem sleeping {event : Event} {rest : List Event} (unfolds : Unfolds allowed dated moment [] final)
    (dates : dated.map Dated.event = event :: rest) (awake : moment.asleep = ⟨0⟩) :
    ∃ (part : Part allowed dated moment final [event] rest) (answering : Moment),
      part.middle = answering.awake ∧ answering.Answers event ∧
        answering.now = moment.now.plus answering.asleep := by
  obtain ⟨first,more,rfl,rfl,rfl⟩ := List.map_eq_cons_iff.mp dates
  obtain ⟨answering,slept,-,answers,during,after⟩ := unfolds.next
    (fun middle => middle.now = moment.now.plus middle.asleep) (fun _ _ _ slept => slept)
    (fun middle length _ slept => by simp [Moment.pass,slept,Duration.plus,Nat.add_assoc])
    (by simp [awake,Duration.plus])
  exact ⟨⟨[first],more,answering.awake,rfl,rfl,rfl,during,after,rfl⟩,answering,rfl,answers,slept⟩

end Unfolds

namespace Monitor

/-- How the next round begins: an interval later, or as soon as the stop signal was used. A use is
not heard twice. -/
inductive Resumes (policy : PollPolicy) (before after : Moment) : Option Nat → Option Nat → Prop where
  | slept (seen : Option Nat) :
      after.now = before.now.plus policy.interval → Resumes policy before after seen seen
  | changed {version later : Nat} :
      version < later → later ≤ after.channel.version →
      Resumes policy before after (some version) (some later)
  | closed (version : Nat) :
      after.channel.isOpen = false → Resumes policy before after (some version) none

/-- Only settings that were made have been heard of. -/
def Heard (seen : Option Nat) (channel : Channel) : Prop :=
  ∀ version ∈ seen, version ≤ channel.version

theorem Heard.later {seen : Option Nat} {channel later : Channel} (heard : Heard seen channel)
    (after : channel.Later later) : Heard seen later :=
  fun version member => Nat.le_trans (heard version member) after.version

theorem Resumes.heard {policy : PollPolicy} {before after : Moment} {seen next : Option Nat}
    (resumes : Resumes policy before after seen next) (heard : Heard seen before.channel)
    (later : before.channel.Later after.channel) : Heard next after.channel := by
  cases resumes with
  | slept => exact heard.later later
  | changed _ made => simpa [Heard] using made
  | closed => exact nofun

theorem Rested.resumes {policy : PollPolicy} {seen next : Option Nat} {resting rest : List Event}
    {allowed : Signal → Prop} {dated : List Dated} {moment final : Moment}
    (rested : Rested policy seen resting (.goOn next))
    (unfolds : Unfolds allowed dated moment [] final)
    (dates : dated.map Dated.event = resting ++ rest) (awake : moment.asleep = ⟨0⟩)
    (heard : Heard seen moment.channel) :
    ∃ part : Part allowed dated moment final resting rest,
      Resumes policy moment part.middle seen next := by
  cases rested with
  | unheard | timeUp =>
    obtain ⟨part,answering,middle,answers,slept⟩ := unfolds.sleeping dates awake
    have whole : answering.asleep = policy.interval := answers
    rw [whole] at slept
    exact ⟨part,.slept _ (middle ▸ slept)⟩
  | closed version =>
    obtain ⟨part,answering,middle,answers,-⟩ := unfolds.sleeping dates awake
    exact ⟨part,.closed version (middle ▸ (Channel.seen_of_closed answers).2)⟩
  | changed version later =>
    obtain ⟨first,answering,middle,answers,-⟩ := unfolds.sleeping dates awake
    obtain ⟨rfl,unheard⟩ := Channel.version_of_changed answers
    have before := first.during.later.version
    rw [middle] at before
    obtain ⟨second,-⟩ := first.after.instantly first.more_events first.awake
      (List.forall_mem_singleton.mpr trivial)
    refine ⟨first.andThen second,.changed ?_ ?_⟩
    · exact Nat.lt_of_le_of_ne (Nat.le_trans (heard version rfl) before) unheard.symm
    · exact Nat.le_trans (middle ▸ Nat.le_refl _) second.during.later.version

variable {monitor : Monitor} {trial : Trial} {tx : TxId}

theorem Looked.instant {lookups : List Event} {result : Option Verdict}
    (looked : Looked monitor trial tx lookups result) : ∀ event ∈ lookups, event.1.Instant := by
  cases looked <;> simp [Effect.Instant]

theorem instant_notes {notes : List Event} (only : OnlyNotes notes) :
    ∀ event ∈ notes, event.1.Instant := by
  intro event member
  obtain ⟨notice,rfl⟩ := only event member
  trivial

/-- A round takes no time, nor does the look at the clock after it. -/
theorem Looked.instant_round {lookups notes more : List Event} {result : Option Verdict}
    (looked : Looked monitor trial tx lookups result) (only : OnlyNotes notes) (time : Duration)
    (others : ∀ event ∈ more, event.1.Instant) :
    ∀ event ∈ ⟨.stopRequested,false⟩ :: (lookups ++ (notes ++ ⟨.now,time⟩ :: more)),
      event.1.Instant := by
  simp only [List.forall_mem_cons,List.forall_mem_append]
  exact ⟨trivial,looked.instant,instant_notes only,trivial,others⟩

/-- A round and the rest after it. -/
theorem Looked.paced {lookups notes resting later : List Event} {time : Duration}
    {seen next : Option Nat} {allowed : Signal → Prop} {dated : List Dated} {moment final : Moment}
    (looked : Looked monitor trial tx lookups none) (only : OnlyNotes notes)
    (rested : Rested monitor.policy seen resting (.goOn next))
    (unfolds : Unfolds allowed dated moment [] final)
    (dates : dated.map Dated.event =
      ⟨.stopRequested,false⟩ :: (lookups ++ (notes ++ ⟨.now,time⟩ :: (resting ++ later))))
    (awake : moment.asleep = ⟨0⟩) (heard : Heard seen moment.channel) :
    time = moment.now ∧
      ∃ (round : Part allowed dated moment final
          (⟨.stopRequested,false⟩ :: (lookups ++ (notes ++ [⟨.now,time⟩]))) (resting ++ later))
        (gap : Part allowed round.more round.middle final resting later),
        (∀ dated ∈ round.past, dated.time = moment.now) ∧ round.middle.now = moment.now ∧
          Resumes monitor.policy round.middle gap.middle seen next := by
  obtain ⟨round,still,times,answered⟩ := unfolds.instantly
    (show dated.map Dated.event =
      (⟨.stopRequested,false⟩ :: (lookups ++ (notes ++ [⟨.now,time⟩]))) ++ (resting ++ later) by
      simp [dates]) awake (looked.instant_round only time nofun)
  obtain ⟨answering,now,answers⟩ := answered ⟨.now,time⟩ (by simp)
  obtain ⟨gap,resumes⟩ := rested.resumes round.after round.more_events round.awake
    (heard.later round.during.later)
  have read : time = answering.now := answers
  exact ⟨read.trans now,round,gap,times,still,resumes⟩

end Monitor

end LedgerRehearsal
