import LedgerRehearsal.Proofs.Moment

/-! Runs that do the same but for notices of their own. Side by side in the same surroundings they
ask the same at the same times and are answered the same, as no answer depends on a notice. -/
namespace LedgerRehearsal

/-- The event is a notice of the given kind. -/
def Dated.isNote (own : Notice → Bool) (dated : Dated) : Bool :=
  match dated.event with
  | ⟨.note notice,_⟩ => own notice
  | _ => false

/-- A history without the notices of the given kind. -/
def withoutNotes (own : Notice → Bool) (history : List Dated) : List Dated :=
  history.filter fun dated => !dated.isNote own

theorem withoutNotes_cons {own : Notice → Bool} {dated : Dated} {first second : List Dated}
    (same : withoutNotes own first = withoutNotes own second) :
    withoutNotes own (dated :: first) = withoutNotes own (dated :: second) := by
  simp only [withoutNotes,List.filter_cons] at same ⊢
  rw [same]

theorem withoutNotes_note {own : Notice → Bool} {time : Duration} {notice : Notice}
    (its : own notice = true) (history : List Dated) :
    withoutNotes own (⟨time,⟨.note notice,()⟩⟩ :: history) = withoutNotes own history := by
  simp [withoutNotes,Dated.isNote,its]

/-- No request is left out with them. -/
theorem exchanges_withoutNotes (own : Notice → Bool) (history : List Dated) :
    exchanges ((withoutNotes own history).map Dated.event) =
      exchanges (history.map Dated.event) := by
  induction history with
  | nil => rfl
  | cons dated history ih =>
    obtain ⟨time,⟨effect,answer⟩⟩ := dated
    cases its : Dated.isNote own ⟨time,⟨effect,answer⟩⟩ with
    | true =>
      cases effect with
      | note notice => simpa [withoutNotes,its] using ih
      | _ => contradiction
    | false =>
      simp only [withoutNotes,List.filter_cons,its] at ih ⊢
      cases effect with
      | ask request => exact congrArg (⟨request,answer⟩ :: ·) ih
      | _ => exact ih

namespace Run

variable {α β γ δ : Type} {own : Notice → Bool} {Related : α → β → Prop}

/-- Two runs perform the same effects, but for notices of their own, and end with related values. -/
inductive Alike (own : Notice → Bool) (Related : α → β → Prop) : Run α → Run β → Prop where
  | done {first : α} {second : β} (related : Related first second) :
      Alike own Related (.done first) (.done second)
  | act {effect : Effect} {first : effect.Answer → Run α} {second : effect.Answer → Run β}
      (same : ∀ answer, Alike own Related (first answer) (second answer)) :
      Alike own Related (.act effect first) (.act effect second)
  | left {notice : Notice} {first : Unit → Run α} {second : Run β} (its : own notice = true)
      (rest : Alike own Related (first ()) second) :
      Alike own Related (.act (.note notice) first) second
  | right {notice : Notice} {first : Run α} {second : Unit → Run β} (its : own notice = true)
      (rest : Alike own Related first (second ())) :
      Alike own Related first (.act (.note notice) second)

namespace Alike

theorem refl (run : Run α) : Alike own Eq run run := by
  induction run with
  | done value => exact .done rfl
  | act effect rest ih => exact .act ih

theorem bind {Next : γ → δ → Prop} {first : Run α} {second : Run β} {next : α → Run γ}
    {next' : β → Run δ} (alike : Alike own Related first second)
    (after : ∀ value value', Related value value' → Alike own Next (next value) (next' value')) :
    Alike own Next (first >>= next) (second >>= next') := by
  induction alike with
  | done related => exact after _ _ related
  | act _ ih => exact .act ih
  | left its _ ih => exact .left its ih
  | right its _ ih => exact .right its ih

/-- The same effect first. -/
theorem perform {effect : Effect} {first : effect.Answer → Run α} {second : effect.Answer → Run β}
    (same : ∀ answer, Alike own Related (first answer) (second answer)) :
    Alike own Related (Run.perform effect >>= first) (Run.perform effect >>= second) := .act same

/-- The same report under the same condition. -/
theorem note_if {condition : Bool} {severity : Severity} {message : String}
    {fields : List (String × String)} {first : Unit → Run α}
    {second : Unit → Run β} (same : Alike own Related (first ()) (second ())) :
    Alike own Related
      (if condition = true then Run.note severity message fields >>= first else first ())
      (if condition = true then Run.note severity message fields >>= second else second ()) := by
  split
  · exact .perform fun _ => same
  · exact same

end Alike

end Run

namespace Surroundings

variable {σ α β : Type} (surroundings : Surroundings σ)

/-- What happens when a run is played, with the times. -/
def dated : Run α → World σ → List Dated
  | .done _, _ => []
  | .act effect next, world =>
    ⟨(surroundings.answer effect world).2.timeline.now,
      ⟨effect,(surroundings.answer effect world).1⟩⟩ ::
      dated (next (surroundings.answer effect world).1) (surroundings.answer effect world).2

theorem dated_events (run : Run α) (world : World σ) :
    (surroundings.dated run world).map Dated.event = surroundings.history run world := by
  induction run generalizing world with
  | done value => rfl
  | act effect rest ih => exact congrArg (_ :: ·) (ih _ _)

theorem trace_dated (run : Run α) (world : World σ) :
    run.Trace ((surroundings.dated run world).map Dated.event) (surroundings.play run world).1 := by
  rw [dated_events]
  exact (Run.trace_history surroundings.answer run world).1

end Surroundings

/-- A world with its notices forgotten. -/
def World.silent {σ : Type} (world : World σ) : World σ := { world with notices := [] }

/-- Nothing is answered by what was noted before. -/
theorem Surroundings.answer_silent {σ : Type} (surroundings : Surroundings σ)
    {world world' : World σ} (same : world.silent = world'.silent) (effect : Effect) :
    (surroundings.answer effect world).1 = (surroundings.answer effect world').1 ∧
      (surroundings.answer effect world).2.silent =
        (surroundings.answer effect world').2.silent := by
  obtain ⟨ledger,timeline,notices,suffixes⟩ := world
  obtain ⟨ledger',timeline',notices',suffixes'⟩ := world'
  cases same
  cases effect <;> exact ⟨rfl,rfl⟩

/-- Played from the same world, runs that are alike ask the same at the same times, get the same
answers, leave the same behind but for notices, and end with related values. -/
theorem Run.Alike.played {σ α β : Type} {own : Notice → Bool} {Related : α → β → Prop}
    {first : Run α} {second : Run β} (alike : Alike own Related first second)
    (surroundings : Surroundings σ) {world world' : World σ} (same : world.silent = world'.silent) :
    Related (surroundings.play first world).1 (surroundings.play second world').1 ∧
      (surroundings.play first world).2.silent = (surroundings.play second world').2.silent ∧
      withoutNotes own (surroundings.dated first world) =
        withoutNotes own (surroundings.dated second world') := by
  induction alike generalizing world world' with
  | done related => exact ⟨related,same,rfl⟩
  | @act effect first second _ ih =>
    obtain ⟨answer,after⟩ := surroundings.answer_silent same effect
    obtain ⟨related,final,history⟩ := ih (surroundings.answer effect world).1 after
    have now : (surroundings.answer effect world).2.timeline.now =
        (surroundings.answer effect world').2.timeline.now :=
      congrArg (fun world => world.timeline.now) after
    simp only [Surroundings.play,Run.play,Surroundings.dated,← answer,← now]
    exact ⟨related,final,withoutNotes_cons history⟩
  | @left notice first second its rest ih =>
    have after : (surroundings.answer (.note notice) world).2.silent = world'.silent := same
    obtain ⟨related,final,history⟩ := ih after
    exact ⟨related,final,(withoutNotes_note its _).trans history⟩
  | @right notice first second its rest ih =>
    have after : world.silent = (surroundings.answer (.note notice) world').2.silent := same
    obtain ⟨related,final,history⟩ := ih after
    exact ⟨related,final,history.trans (withoutNotes_note its _).symm⟩

end LedgerRehearsal
