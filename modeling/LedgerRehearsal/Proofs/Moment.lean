import LedgerRehearsal.Proofs.Trace

/-! Runs beside an owner of the stop signal who may use it at any moment, between two effects or in
the middle of a rest. Only sleep takes time. A rest is over as soon as something wakes the run, and
at the very end of a rest it is open whether the run notices the end or the signal. -/
namespace LedgerRehearsal

namespace Channel

/-- Settings are counted, and what was dropped stays dropped. -/
structure Later (earlier later : Channel) : Prop where
  version : earlier.version ≤ later.version
  dropped : later.isOpen = true → earlier.isOpen = true

theorem Later.refl (channel : Channel) : channel.Later channel := ⟨Nat.le_refl _,id⟩

theorem Later.trans {first middle last : Channel} (before : first.Later middle)
    (after : middle.Later last) : first.Later last :=
  ⟨Nat.le_trans before.version after.version,before.dropped ∘ after.dropped⟩

theorem later_deliver (channel : Channel) (signal : Signal) :
    channel.Later (channel.deliver signal) := by
  unfold deliver
  split
  · cases signal with
    | set value => exact ⟨Nat.le_succ _,id⟩
    | drop => exact ⟨Nat.le_refl _,nofun⟩
  · exact .refl channel

theorem wake?_eq_none_iff {channel : Channel} {seen : Nat} :
    channel.wake? seen = none ↔ channel.version = seen ∧ channel.isOpen = true := by
  unfold wake?
  split
  · simp_all
  · split <;> simp_all

theorem version_of_changed {channel : Channel} {seen version : Nat}
    (woken : channel.wake? seen = some (.changed version)) :
    channel.version = version ∧ channel.version ≠ seen := by
  unfold wake? at woken
  split at woken
  · rename_i unheard
    exact ⟨by simpa using woken,unheard⟩
  · split at woken <;> cases woken

theorem seen_of_closed {channel : Channel} {seen : Nat}
    (woken : channel.wake? seen = some .closed) :
    channel.version = seen ∧ channel.isOpen = false := by
  unfold wake? at woken
  split at woken
  · cases woken
  · split at woken
    · cases woken
    · simp_all

/-- Every use of the signal while somebody listens to it is heard. -/
theorem Later.wakes {channel later : Channel} {signal : Signal} {seen : Nat}
    (after : (channel.deliver signal).Later later) (unheard : channel.wake? seen = none) :
    later.wake? seen ≠ none := by
  obtain ⟨rfl,listening⟩ := wake?_eq_none_iff.mp unheard
  intro silent
  obtain ⟨same,listened⟩ := wake?_eq_none_iff.mp silent
  cases signal with
  | set value =>
    have counted := after.version
    simp only [deliver,if_pos listening] at counted
    omega
  | drop =>
    have dropped := after.dropped listened
    simp [deliver,listening] at dropped

theorem deliver_value {channel : Channel} {signal : Signal} {value : Bool}
    (other : signal ≠ .set !value) (held : channel.value = value) :
    (channel.deliver signal).value = value := by
  unfold deliver
  split
  · cases signal with
    | set given => cases given <;> cases value <;> simp_all
    | drop => exact held
  · exact held

end Channel

/-- An event with the time of its answer. -/
structure Dated where
  time : Duration
  event : Event

/-- The clock and the stop signal at a moment, and for how long the run has been asleep. -/
structure Moment where
  now : Duration
  channel : Channel
  asleep : Duration

namespace Moment

def deliver (moment : Moment) (signal : Signal) : Moment :=
  { moment with channel := moment.channel.deliver signal }

def pass (moment : Moment) (length : Duration) : Moment :=
  { moment with now := moment.now.plus length, asleep := moment.asleep.plus length }

def awake (moment : Moment) : Moment := { moment with asleep := ⟨0⟩ }

/-- Time passes only while the run sleeps, and at a rest only until something wakes it. -/
def Sleeps (moment : Moment) (length : Duration) : Effect → Prop
  | .sleep total => moment.asleep.nanos + length.nanos ≤ total.nanos
  | .rest total seen =>
    moment.channel.wake? seen = none ∧ moment.asleep.nanos + length.nanos ≤ total.nanos
  | _ => False

/-- The answers that a moment allows. -/
def Answers (moment : Moment) : Event → Prop
  | ⟨.now,time⟩ => time = moment.now
  | ⟨.stopRequested,stop⟩ => stop = moment.channel.value
  | ⟨.sleep total,_⟩ => moment.asleep = total
  | ⟨.rest total _,.timeUp⟩ => moment.asleep = total
  | ⟨.rest _ seen,wake⟩ => moment.channel.wake? seen = some wake
  | _ => True

/-- A run that is woken is told by what. -/
theorem answers_woken {moment : Moment} {seen : Nat} {wake : Wake}
    (woken : moment.channel.wake? seen = some wake) (total : Duration) :
    moment.Answers ⟨.rest total seen,wake⟩ := by
  cases wake with
  | timeUp =>
    unfold Channel.wake? at woken
    split at woken
    · cases woken
    · split at woken <;> cases woken
  | changed | closed => exact woken

end Moment

/-- A run goes on from one moment to another, and meanwhile only what is allowed is done with the
stop signal. The dated events are those that come after the first moment and those of them that come
after the last. -/
inductive Unfolds (allowed : Signal → Prop) : List Dated → Moment → List Dated → Moment → Prop where
  | here {ahead : List Dated} {moment : Moment} : Unfolds allowed ahead moment ahead moment
  | signal {ahead left : List Dated} {moment final : Moment} (signal : Signal) :
      allowed signal → Unfolds allowed ahead (moment.deliver signal) left final →
      Unfolds allowed ahead moment left final
  | pass {ahead left : List Dated} {dated : Dated} {moment final : Moment} (length : Duration) :
      moment.Sleeps length dated.event.1 →
      Unfolds allowed (dated :: ahead) (moment.pass length) left final →
      Unfolds allowed (dated :: ahead) moment left final
  | answer {ahead left : List Dated} {dated : Dated} {moment final : Moment} :
      moment.now = dated.time → moment.Answers dated.event →
      Unfolds allowed ahead moment.awake left final →
      Unfolds allowed (dated :: ahead) moment left final

/-- Nothing that is allowed makes the property fail. -/
def Kept (allowed : Signal → Prop) (property : Channel → Prop) : Prop :=
  ∀ channel signal, allowed signal → property channel → property (channel.deliver signal)

/-- Effects that take no time. -/
def Effect.Instant : Effect → Prop
  | sleep _ | rest .. => False
  | _ => True

namespace Unfolds

variable {allowed : Signal → Prop} {property : Channel → Prop} {ahead left : List Dated}
  {moment final : Moment}

theorem trans {middle : Moment} {between : List Dated}
    (first : Unfolds allowed ahead moment between middle)
    (rest : Unfolds allowed between middle left final) : Unfolds allowed ahead moment left final := by
  induction first with
  | here => exact rest
  | signal signal permitted _ ih => exact .signal signal permitted (ih rest)
  | pass length sleeps _ ih => exact .pass length sleeps (ih rest)
  | answer time answers _ ih => exact .answer time answers (ih rest)

theorem later (unfolds : Unfolds allowed ahead moment left final) :
    moment.channel.Later final.channel := by
  induction unfolds with
  | here => exact .refl _
  | signal signal _ _ ih => exact (Channel.later_deliver _ signal).trans ih
  | pass _ _ _ ih | answer _ _ _ ih => exact ih

/-- What is kept holds to the end, and it held when each of the events was answered. -/
theorem answered (unfolds : Unfolds allowed ahead moment left final)
    (property : Channel → Prop) (kept : Kept allowed property) (holds : property moment.channel) :
    property final.channel ∧ ∃ past, ahead = past ++ left ∧
      ∀ dated ∈ past, ∃ middle : Moment, property middle.channel ∧
        middle.channel.Later final.channel ∧ middle.Answers dated.event := by
  induction unfolds with
  | here => exact ⟨holds,[],rfl,by simp⟩
  | signal signal permitted _ ih => exact ih (kept _ signal permitted holds)
  | pass _ _ _ ih => exact ih holds
  | answer time answers rest ih =>
    obtain ⟨last,past,rfl,each⟩ := ih holds
    refine ⟨last,_ :: past,rfl,fun dated member => ?_⟩
    rcases List.mem_cons.mp member with rfl | member
    · exact ⟨_,holds,rest.later,answers⟩
    · exact each dated member

/-- While nothing sleeps, time stands still. -/
theorem now_eq (unfolds : Unfolds allowed ahead moment left final) (property : Channel → Prop)
    (kept : Kept allowed property) (holds : property moment.channel)
    (wakeful : ∀ dated ∈ ahead, ∀ middle : Moment, property middle.channel →
      ∀ length, ¬middle.Sleeps length dated.event.1) : final.now = moment.now := by
  induction unfolds with
  | here => rfl
  | signal signal permitted _ ih => exact ih (kept _ signal permitted holds) wakeful
  | pass length sleeps _ ih => exact absurd sleeps (wakeful _ List.mem_cons_self _ holds length)
  | answer _ _ _ ih => exact ih holds fun dated member => wakeful dated (List.mem_cons_of_mem _ member)

/-- What holds until the next event is answered holds when it is. -/
theorem next {dated : Dated} (unfolds : Unfolds allowed (dated :: ahead) moment [] final)
    (waiting : Moment → Prop)
    (signalled : ∀ middle signal, allowed signal → waiting middle → waiting (middle.deliver signal))
    (passed : ∀ middle length, Moment.Sleeps middle length dated.event.1 → waiting middle →
      waiting (middle.pass length)) (holds : waiting moment) :
    ∃ middle, waiting middle ∧ middle.now = dated.time ∧ middle.Answers dated.event ∧
      Unfolds allowed (dated :: ahead) moment ahead middle.awake ∧
      Unfolds allowed ahead middle.awake [] final := by
  generalize whole : dated :: ahead = events at unfolds
  generalize last : ([] : List Dated) = remaining at unfolds
  induction unfolds with
  | here =>
    rw [← last] at whole
    contradiction
  | signal signal permitted _ ih =>
    obtain ⟨middle,holds,time,answers,first,rest⟩ := ih (signalled _ signal permitted holds) whole last
    exact ⟨middle,holds,time,answers,.signal signal permitted first,rest⟩
  | pass length sleeps _ ih =>
    obtain ⟨rfl,rfl⟩ := List.cons.inj whole
    obtain ⟨middle,holds,time,answers,first,rest⟩ := ih (passed _ length sleeps holds) rfl last
    exact ⟨middle,holds,time,answers,.pass length sleeps first,rest⟩
  | answer time answers rest =>
    obtain ⟨rfl,rfl⟩ := List.cons.inj whole
    subst last
    exact ⟨_,holds,time,answers,.answer time answers .here,rest⟩

/-- Effects that take no time are all answered where the clock stands. -/
theorem instants {past : List Dated} (unfolds : Unfolds allowed (past ++ ahead) moment [] final)
    (awake : moment.asleep = ⟨0⟩) (instant : ∀ dated ∈ past, dated.event.1.Instant) :
    ∃ middle, Unfolds allowed (past ++ ahead) moment ahead middle ∧
      Unfolds allowed ahead middle [] final ∧ middle.now = moment.now ∧ middle.asleep = ⟨0⟩ ∧
      ∀ dated ∈ past, dated.time = moment.now ∧
        ∃ answering : Moment, answering.now = moment.now ∧ answering.Answers dated.event := by
  induction past generalizing moment with
  | nil => exact ⟨moment,.here,unfolds,rfl,awake,by simp⟩
  | cons dated past ih =>
    have quick := instant dated List.mem_cons_self
    obtain ⟨answering,still,time,answers,first,rest⟩ := unfolds.next
      (fun middle => middle.now = moment.now) (fun _ _ _ still => still)
      (fun middle length sleeps _ => by
        obtain ⟨time,effect,answer⟩ := dated
        cases effect with
        | sleep | rest => exact absurd quick id
        | _ => exact absurd sleeps id)
      rfl
    obtain ⟨middle,between,rest,now,asleep,each⟩ := ih rest rfl
      fun other member => instant other (List.mem_cons_of_mem dated member)
    refine ⟨middle,first.trans between,rest,now.trans still,asleep,fun other member => ?_⟩
    rcases List.mem_cons.mp member with rfl | member
    · exact ⟨time.symm.trans still,answering,still,answers⟩
    · exact still ▸ each other member

end Unfolds

end LedgerRehearsal
