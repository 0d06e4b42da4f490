import LedgerRehearsal.Proofs.Moment

/-! The clock that runs are played on. It delivers what is planned at the planned times, so a run
that is played is one of those that go on beside an owner of the stop signal. -/
namespace LedgerRehearsal

namespace Timeline

/-- What is planned is planned in order of time. -/
def Ordered (timeline : Timeline) : Prop :=
  timeline.plan.Pairwise fun first later => first.1.nanos ≤ later.1.nanos

theorem mem_insertAt {time : Duration} {signal : Signal} {plan : List (Duration × Signal)}
    {planned : Duration × Signal} (member : planned ∈ insertAt time signal plan) :
    planned = (time,signal) ∨ planned ∈ plan := by
  induction plan with
  | nil => simpa [insertAt] using member
  | cons first plan ih =>
    unfold insertAt at member
    split at member
    · rcases List.mem_cons.mp member with rfl | member
      · exact .inr List.mem_cons_self
      · exact (ih member).imp_right (List.mem_cons_of_mem first)
    · exact List.mem_cons.mp member

theorem pairwise_insertAt {time : Duration} {signal : Signal} {plan : List (Duration × Signal)}
    (ordered : plan.Pairwise fun first later => first.1.nanos ≤ later.1.nanos) :
    (insertAt time signal plan).Pairwise fun first later => first.1.nanos ≤ later.1.nanos := by
  induction plan with
  | nil => simp [insertAt]
  | cons first plan ih =>
    obtain ⟨earliest,ordered⟩ := List.pairwise_cons.mp ordered
    unfold insertAt
    split
    · rename_i early
      refine List.pairwise_cons.mpr ⟨fun planned member => ?_,ih ordered⟩
      rcases mem_insertAt member with rfl | member
      · exact early
      · exact earliest planned member
    · rename_i late
      refine List.pairwise_cons.mpr ⟨fun planned member => ?_,List.pairwise_cons.mpr ⟨earliest,ordered⟩⟩
      have sooner := Nat.le_of_not_le late
      rcases List.mem_cons.mp member with rfl | member
      · exact sooner
      · exact Nat.le_trans sooner (earliest planned member)

/-- What holds of an empty plan, and of a plan with one of the signals more, holds of the plan that
is made of them. -/
theorem plan_start (property : List (Duration × Signal) → Prop)
    {signals : List (Option Duration × Signal)} (empty : property [])
    (inserted : ∀ time signal plan, (some time,signal) ∈ signals → property plan →
      property (insertAt time signal plan)) : property (start signals).plan := by
  unfold start
  generalize ([] : List (Duration × Signal)) = plan at empty ⊢
  induction signals generalizing plan with
  | nil => exact empty
  | cons signal signals ih =>
    have later time signal plan (member : (some time,signal) ∈ signals) :=
      inserted time signal plan (List.mem_cons_of_mem _ member)
    obtain ⟨_ | time,signal⟩ := signal
    · exact ih later plan empty
    · exact ih later _ (inserted time signal plan List.mem_cons_self empty)

theorem ordered_start (signals : List (Option Duration × Signal)) : (start signals).Ordered :=
  plan_start (List.Pairwise _) .nil fun _ _ _ _ => pairwise_insertAt

/-- Only what is to be done with the stop signal is planned. -/
theorem mem_start {signals : List (Option Duration × Signal)} :
    ∀ planned ∈ (start signals).plan, (some planned.1,planned.2) ∈ signals := by
  refine plan_start (fun plan => ∀ planned ∈ plan, (some planned.1,planned.2) ∈ signals) nofun
    fun time signal plan member kept planned within => ?_
  rcases mem_insertAt within with rfl | within
  · exact member
  · exact kept planned within

/-- The moment that a clock shows while the run is awake. -/
def moment (timeline : Timeline) : Moment := ⟨timeline.now,timeline.channel,⟨0⟩⟩

end Timeline

namespace Channel

/-- The stop signal after all that was planned. -/
def deliverAll (channel : Channel) (planned : List (Duration × Signal)) : Channel :=
  planned.foldl (fun channel planned => channel.deliver planned.2) channel

theorem later_deliverAll (channel : Channel) (planned : List (Duration × Signal)) :
    channel.Later (channel.deliverAll planned) := by
  induction planned generalizing channel with
  | nil => exact .refl channel
  | cons signal planned ih => exact (channel.later_deliver signal.2).trans (ih _)

end Channel

namespace Unfolds

variable {allowed : Signal → Prop} {ahead left : List Dated} {dated : Dated} {final : Moment}
  {now asleep : Nat} {channel : Channel} {planned : List (Duration × Signal)}

theorem deliver_all (permitted : ∀ signal ∈ planned, allowed signal.2)
    (rest : Unfolds allowed ahead ⟨⟨now⟩,channel.deliverAll planned,⟨asleep⟩⟩ left final) :
    Unfolds allowed ahead ⟨⟨now⟩,channel,⟨asleep⟩⟩ left final := by
  induction planned generalizing channel with
  | nil => exact rest
  | cons signal planned ih =>
    exact .signal signal.2 (permitted signal List.mem_cons_self)
      (ih (fun other member => permitted other (List.mem_cons_of_mem signal member)) rest)

/-- A sleep that is not listened to, with all that is done with the stop signal meanwhile. -/
theorem sleep_through {wakeTime total : Nat} (planned : List (Duration × Signal))
    (sleeps : dated.event.1 = .sleep ⟨total⟩)
    (permitted : ∀ signal ∈ planned, allowed signal.2)
    (ordered : planned.Pairwise fun first later => first.1.nanos ≤ later.1.nanos)
    (within : ∀ signal ∈ planned, now ≤ signal.1.nanos ∧ signal.1.nanos < wakeTime)
    (left : now ≤ wakeTime) (length : asleep + (wakeTime - now) = total)
    (rest : Unfolds allowed (dated :: ahead) ⟨⟨wakeTime⟩,channel.deliverAll planned,⟨total⟩⟩
      [] final) :
    Unfolds allowed (dated :: ahead) ⟨⟨now⟩,channel,⟨asleep⟩⟩ [] final := by
  induction planned generalizing now asleep channel with
  | nil =>
    refine .pass ⟨wakeTime - now⟩ ?_ ?_
    · rw [sleeps]
      exact Nat.le_of_eq length
    · have now_eq : now + (wakeTime - now) = wakeTime := by omega
      simpa [Moment.pass,Duration.plus,now_eq,length,Channel.deliverAll] using rest
  | cons signal planned ih =>
    obtain ⟨⟨time⟩,signal⟩ := signal
    obtain ⟨earliest,ordered⟩ := List.pairwise_cons.mp ordered
    obtain ⟨later,early⟩ : now ≤ time ∧ time < wakeTime := within _ List.mem_cons_self
    have now_eq : now + (time - now) = time := by omega
    refine .pass ⟨time - now⟩ ?_ ?_
    · rw [sleeps]
      change asleep + (time - now) ≤ total
      omega
    · simp only [Moment.pass,Duration.plus,now_eq]
      refine .signal signal (permitted _ List.mem_cons_self) (ih ?_ ordered ?_ ?_ ?_ rest)
      · exact fun other member => permitted other (List.mem_cons_of_mem _ member)
      · exact fun other member =>
          ⟨earliest other member,(within other (List.mem_cons_of_mem _ member)).2⟩
      · exact Nat.le_of_lt early
      · omega

end Unfolds

namespace Timeline

variable {timeline : Timeline} {allowed : Signal → Prop} {ahead : List Dated} {final : Moment}

theorem late_dropWhile {plan : List (Duration × Signal)} {now : Duration}
    (ordered : plan.Pairwise fun first later => first.1.nanos ≤ later.1.nanos) :
    ∀ planned ∈ plan.dropWhile fun planned => decide (planned.1.nanos ≤ now.nanos),
      now.nanos < planned.1.nanos := by
  induction plan with
  | nil => simp
  | cons first plan ih =>
    obtain ⟨earliest,ordered⟩ := List.pairwise_cons.mp ordered
    rw [List.dropWhile_cons]
    split
    · exact ih ordered
    · rename_i late
      have late : now.nanos < first.1.nanos := by simpa using late
      intro planned member
      rcases List.mem_cons.mp member with rfl | member
      · exact late
      · exact Nat.lt_of_lt_of_le late (earliest planned member)

theorem drop_takeWhile {α : Type} (test : α → Bool) (items : List α) :
    items.drop (items.takeWhile test).length = items.dropWhile test := by
  induction items with
  | nil => rfl
  | cons item items ih =>
    rw [List.takeWhile_cons,List.dropWhile_cons]
    split <;> simp [ih]

theorem deliverDue_eq (timeline : Timeline) :
    timeline.deliverDue =
      ⟨timeline.now,
        timeline.channel.deliverAll
          (timeline.plan.takeWhile fun planned => planned.1.nanos ≤ timeline.now.nanos),
        timeline.plan.dropWhile fun planned => planned.1.nanos ≤ timeline.now.nanos⟩ := by
  simp only [deliverDue,drop_takeWhile]
  rfl

/-- What is due is delivered where the clock stands, and what is left is planned for later. -/
theorem deliverDue_spec (timeline : Timeline) (ordered : timeline.Ordered)
    (permitted : ∀ planned ∈ timeline.plan, allowed planned.2) (asleep : Duration) :
    timeline.deliverDue.Ordered ∧ (∀ planned ∈ timeline.deliverDue.plan, allowed planned.2) ∧
      (∀ planned ∈ timeline.deliverDue.plan,
        timeline.deliverDue.now.nanos < planned.1.nanos) ∧
      ∀ {ahead left : List Dated} {final : Moment},
        Unfolds allowed ahead ⟨timeline.now,timeline.deliverDue.channel,asleep⟩ left final →
        Unfolds allowed ahead ⟨timeline.now,timeline.channel,asleep⟩ left final := by
  rw [deliverDue_eq]
  refine ⟨ordered.sublist (List.dropWhile_sublist _),?_,late_dropWhile ordered,?_⟩
  · exact fun planned member => permitted planned ((List.dropWhile_sublist _).subset member)
  · intro ahead left final rest
    refine Unfolds.deliver_all (fun planned member => permitted planned ?_) rest
    exact (List.takeWhile_sublist _).subset member

theorem sleep_unfolds {length : Duration} (ordered : timeline.Ordered)
    (permitted : ∀ planned ∈ timeline.plan, allowed planned.2)
    (rest : Unfolds allowed ahead (timeline.sleep length).moment [] final) :
    Unfolds allowed (⟨(timeline.sleep length).now,⟨.sleep length,()⟩⟩ :: ahead) timeline.moment []
      final := by
  obtain ⟨ordered,permitted,late,delivered⟩ := timeline.deliverDue_spec ordered permitted ⟨0⟩
  refine delivered (.sleep_through (timeline.deliverDue.plan.takeWhile fun planned =>
    planned.1.nanos < (timeline.now.plus length).nanos) rfl ?_ ?_ ?_ ?_ ?_ (.answer rfl rfl rest))
  · exact fun planned member => permitted planned ((List.takeWhile_sublist _).subset member)
  · exact ordered.sublist (List.takeWhile_sublist _)
  · intro planned member
    have before := List.all_eq_true.mp List.all_takeWhile planned member
    exact ⟨Nat.le_of_lt (late planned ((List.takeWhile_sublist _).subset member)),
      of_decide_eq_true before⟩
  · exact Nat.le_add_right _ _
  · simp

/-- A rest that begins while nothing is due. -/
theorem undisturbed_unfolds {length : Duration} {seen : Nat} (ordered : timeline.Ordered)
    (permitted : ∀ planned ∈ timeline.plan, allowed planned.2)
    (late : ∀ planned ∈ timeline.plan, timeline.now.nanos < planned.1.nanos)
    (unheard : timeline.channel.wake? seen = none) {time : Duration}
    (interrupted : timeline.interruption? (timeline.now.plus length) = some time)
    (rest : Unfolds allowed ahead ({ timeline with now := time }).deliverDue.moment [] final) :
    let later := ({ timeline with now := time }).deliverDue
    Unfolds allowed
      (⟨time,⟨.rest length seen,(later.channel.wake? seen).getD .timeUp⟩⟩ :: ahead)
      timeline.moment [] final := by
  obtain ⟨now,channel,plan⟩ := timeline
  obtain _ | ⟨⟨first,signal⟩,plan⟩ := plan
  · simp [interruption?] at interrupted
  obtain ⟨early,rfl⟩ : first.nanos < (now.plus length).nanos ∧ first = time := by
    simpa [interruption?] using interrupted
  have after : now.nanos < first.nanos := late _ List.mem_cons_self
  have now_eq : now.plus ⟨first.nanos - now.nanos⟩ = first := by
    simp only [Duration.plus]
    rw [Nat.add_sub_cancel' (Nat.le_of_lt after)]
  intro later
  obtain ⟨wake,woken⟩ : ∃ wake, later.channel.wake? seen = some wake := by
    refine Option.ne_none_iff_exists'.mp (@Channel.Later.wakes _ _ signal _ ?_ unheard)
    simp only [later,deliverDue_eq]
    rw [List.takeWhile_cons_of_pos (by simp)]
    exact Channel.later_deliverAll _ _
  obtain ⟨-,-,-,delivered⟩ := deliverDue_spec ⟨first,channel,(first,signal) :: plan⟩ ordered
    permitted ⟨first.nanos - now.nanos⟩
  refine .pass ⟨first.nanos - now.nanos⟩ ⟨unheard,?_⟩ ?_
  · simp only [moment,Duration.plus] at early ⊢
    omega
  · simp only [moment,Moment.pass,now_eq]
    simp only [Duration.plus,Nat.zero_add]
    refine delivered (.answer rfl ?_ rest)
    rw [woken]
    exact Moment.answers_woken woken length

theorem rest_unfolds {length : Duration} {seen : Nat} (ordered : timeline.Ordered)
    (permitted : ∀ planned ∈ timeline.plan, allowed planned.2)
    (rest : Unfolds allowed ahead (timeline.rest length seen).2.moment [] final) :
    Unfolds allowed
      (⟨(timeline.rest length seen).2.now,⟨.rest length seen,(timeline.rest length seen).1⟩⟩ :: ahead)
      timeline.moment [] final := by
  unfold Timeline.rest at rest ⊢
  cases woken : timeline.channel.wake? seen with
  | some wake =>
    simp only [woken] at rest ⊢
    exact .answer rfl (Moment.answers_woken woken length) rest
  | none =>
    simp only [woken] at rest ⊢
    obtain ⟨ordered,permitted,late,delivered⟩ := timeline.deliverDue_spec ordered permitted ⟨0⟩
    refine delivered ?_
    change Unfolds allowed _ timeline.deliverDue.moment [] final
    generalize timeline.deliverDue = timeline at *
    cases due : timeline.channel.wake? seen with
    | some wake =>
      simp only [due] at rest ⊢
      exact .answer rfl (Moment.answers_woken due length) rest
    | none =>
      simp only [due] at rest ⊢
      cases interrupted : timeline.interruption? (timeline.now.plus length) with
      | none =>
        simp only [interrupted] at rest ⊢
        refine .pass length ⟨due,Nat.le_of_eq (Nat.zero_add _)⟩ (.answer rfl ?_ rest)
        simp [Moment.Answers,Moment.pass,Duration.plus,moment]
      | some time =>
        simp only [interrupted] at rest ⊢
        exact undisturbed_unfolds ordered permitted late due interrupted rest

theorem plan_deliverDue_sublist (timeline : Timeline) :
    timeline.deliverDue.plan.Sublist timeline.plan := by
  rw [deliverDue_eq]
  exact List.dropWhile_sublist _

theorem plan_sleep_sublist (timeline : Timeline) (length : Duration) :
    (timeline.sleep length).plan.Sublist timeline.plan :=
  (List.drop_sublist _ _).trans timeline.plan_deliverDue_sublist

theorem plan_rest_sublist (timeline : Timeline) (length : Duration) (seen : Nat) :
    (timeline.rest length seen).2.plan.Sublist timeline.plan := by
  have due := timeline.plan_deliverDue_sublist
  unfold Timeline.rest
  split
  · exact List.Sublist.refl _
  · dsimp only
    split
    · exact due
    · split
      · exact due
      · exact (plan_deliverDue_sublist _).trans due

end Timeline

/-- A run that is played goes on beside an owner who does what is planned. -/
theorem Follows.unfolds {σ : Type} (allowed : Signal → Prop) {surroundings : Surroundings σ}
    {events : List Event} {world final : World σ} (ordered : world.timeline.Ordered)
    (permitted : ∀ planned ∈ world.timeline.plan, allowed planned.2)
    (follows : Follows surroundings.answer events world final) :
    ∃ dated, dated.map Dated.event = events ∧
      Unfolds allowed dated world.timeline.moment [] final.timeline.moment := by
  induction events generalizing world with
  | nil =>
    cases follows
    exact ⟨[],rfl,.here⟩
  | cons event events ih =>
    obtain ⟨effect,answer⟩ := event
    obtain ⟨rfl,follows⟩ := follows
    have remains : (surroundings.answer effect world).2.timeline.plan.Sublist
        world.timeline.plan := by
      cases effect with
      | sleep length => exact world.timeline.plan_sleep_sublist length
      | rest length seen => exact world.timeline.plan_rest_sublist length seen
      | _ => exact List.Sublist.refl _
    obtain ⟨dated,rfl,unfolds⟩ := ih (ordered.sublist remains)
      (fun planned member => permitted planned (remains.subset member)) follows
    refine ⟨⟨(surroundings.answer effect world).2.timeline.now,_⟩ :: dated,rfl,?_⟩
    cases effect with
    | sleep length => exact Timeline.sleep_unfolds ordered permitted unfolds
    | rest length seen => exact Timeline.rest_unfolds ordered permitted unfolds
    | now | stopRequested => exact .answer rfl rfl unfolds
    | ask | note | freshSuffix => exact .answer rfl trivial unfolds

/-- Every run goes on beside an owner, whatever signals it is played against. -/
theorem Surroundings.history_unfolds {σ α : Type} {allowed : Signal → Prop}
    (surroundings : Surroundings σ) (run : Run α) (ledger : σ)
    {signals : List (Option Duration × Signal)} (permitted : ∀ signal ∈ signals, allowed signal.2) :
    ∃ dated, dated.map Dated.event = surroundings.history run (.start ledger signals) ∧
      Unfolds allowed dated (Timeline.start signals).moment []
        (surroundings.play run (.start ledger signals)).2.timeline.moment :=
  Follows.unfolds allowed (Timeline.ordered_start signals)
    (fun _ member => permitted _ (Timeline.mem_start _ member))
    (Run.trace_history surroundings.answer run (.start ledger signals)).2

end LedgerRehearsal
