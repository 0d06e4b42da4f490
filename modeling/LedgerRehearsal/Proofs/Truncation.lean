import LedgerRehearsal.Proofs.Rehearsal.Source
import Mathlib.Data.List.Infix

/-! Targets that are cut off behind a stage. A build goes stage by stage, so the build of the first
stages is the front of the whole build. It fails where the whole build does, if it goes as far as
that, and for the same reason. -/
namespace LedgerRehearsal

namespace Target

variable {target truncated : Target} {stage : String} {place : Nat}

/-- A stage stands at a place, and at no earlier one. -/
structure FirstAt (stage : String) (stages : List String) (place : Nat) : Prop where
  stands : stages[place]? = some stage
  first : ∀ earlier < place, stages[earlier]? ≠ some stage

theorem firstAt_iff {stages : List String} :
    FirstAt stage stages place ↔ stages.idxOf? stage = some place := by
  rw [List.idxOf?_eq_some_iff]
  constructor
  · rintro ⟨stands,first⟩
    obtain ⟨bound,here⟩ := List.getElem?_eq_some_iff.mp stands
    exact ⟨bound,here,fun earlier early same =>
      first earlier early (List.getElem?_eq_some_iff.mpr ⟨Nat.lt_trans early bound,same⟩)⟩
  · rintro ⟨bound,here,first⟩
    refine ⟨List.getElem?_eq_some_iff.mpr ⟨bound,here⟩,fun earlier early same => ?_⟩
    exact first earlier early (List.getElem?_eq_some_iff.mp same).2

theorem through_eq_ok : target.through stage = .ok truncated ↔ ∃ place,
    FirstAt stage target.stages place ∧
      truncated = { target with stages := target.stages.take (place + 1) } := by
  simp only [firstAt_iff,through]
  split
  · rename_i place found
    rw [found]
    constructor
    · intro same
      exact ⟨place,rfl,(Except.ok.inj same).symm⟩
    · rintro ⟨_,⟨⟩,rfl⟩
      rfl
  · rename_i absent
    simp [absent]

theorem through_eq_error {error : SettingsError} : target.through stage = .error error ↔
    stage ∉ target.stages ∧ error = .unknownStage target.name stage := by
  rw [← List.idxOf?_eq_none_iff,through]
  split
  · rename_i found
    simp [found]
  · rename_i absent
    simp [absent,eq_comm]

/-- Behind the first place of a stage there is nothing left to be cut off. -/
theorem FirstAt.take {stages : List String} (first : FirstAt stage stages place) :
    FirstAt stage (stages.take (place + 1)) place where
  stands := by rw [List.getElem?_take_of_lt (Nat.lt_succ_self place),first.stands]
  first earlier early := by
    rw [List.getElem?_take_of_lt (by omega)]
    exact first.first earlier early

theorem through_through (cut : target.through stage = .ok truncated) :
    truncated.through stage = .ok truncated := by
  obtain ⟨place,first,rfl⟩ := through_eq_ok.mp cut
  refine through_eq_ok.mpr ⟨place,first.take,?_⟩
  rw [List.take_take,Nat.min_self]

end Target

namespace Artifact

section

variable [Diagnostics] (files : Files) (root : Path)

/-- What the build of the first stages has in common with that of all. -/
structure FrontBuilt (stages : List String) (count : Nat) : Prop where
  ok : ∀ artifacts, assemble files root stages = .ok artifacts →
    assemble files root (stages.take count) = .ok (artifacts.take count) ∧
      (artifacts.take count).map (·.stage) = stages.take count ∧
      flatten (artifacts.take count) <+: flatten artifacts
  error : ∀ place error, Except.FailsAt (assembleStage files root) stages place error →
    (assemble files root (stages.take count) = .error error ↔ place < count) ∧
      (count ≤ place → ∃ artifacts, assemble files root (stages.take count) = .ok artifacts)

theorem frontBuilt (stages : List String) (count : Nat) : FrontBuilt files root stages count where
  ok artifacts assembled := by
    have front := Except.mapM_take assembled count
    exact ⟨front,stages_of_assemble front,List.IsPrefix.flatMap (List.take_prefix count artifacts) _⟩
  error place error fails := by
    refine ⟨⟨fun failed => ?_,fun early => ?_⟩,fails.take_passes⟩
    · by_contra late
      obtain ⟨artifacts,assembled⟩ := fails.take_passes (Nat.le_of_not_lt late)
      exact nomatch assembled.symm.trans failed
    · exact Except.mapM_eq_error_iff_failsAt.mpr ⟨place,fails.take early⟩

/-- Two lists of stages are assembled to the artifacts of the one and those of the other, or fail
with the error of the first stage that does. A target that is cut off behind a stage keeps the
stages up to the first of that name and is built as the front of the whole target; cutting it off
there again changes nothing, and it cannot be cut off where it has no stage. -/
theorem assemble_through :
    (∀ xs ys,
      (∀ artifacts, assemble files root (xs ++ ys) = .ok artifacts ↔ ∃ front rest,
        assemble files root xs = .ok front ∧ assemble files root ys = .ok rest ∧
          artifacts = front ++ rest) ∧
      ∀ error, assemble files root (xs ++ ys) = .error error ↔
        ∃ place, Except.FailsAt (assembleStage files root) (xs ++ ys) place error) ∧
    (∀ front rest, flatten (front ++ rest) = flatten front ++ flatten rest) ∧
    ∀ (target : Target) (stage : String),
      (∀ error, target.through stage = .error error ↔
        stage ∉ target.stages ∧ error = .unknownStage target.name stage) ∧
      (∀ place, Target.FirstAt stage target.stages place → ∃ truncated,
        target.through stage = .ok truncated ∧ truncated.name = target.name ∧
          truncated.stages = target.stages.take (place + 1) ∧
          FrontBuilt files root target.stages (place + 1)) ∧
      ∀ truncated, target.through stage = .ok truncated →
        truncated.through stage = .ok truncated := by
  refine ⟨fun xs ys => ⟨fun _ => Except.mapM_append_eq_ok,
    fun _ => Except.mapM_eq_error_iff_failsAt⟩,fun _ _ => List.flatMap_append,
    fun target stage => ⟨fun _ => Target.through_eq_error,fun place first => ?_,
      fun _ => Target.through_through⟩⟩
  exact ⟨_,Target.through_eq_ok.mpr ⟨place,first,rfl⟩,rfl,rfl,frontBuilt files root _ _⟩

end

-- of a stage that comes twice the first place counts
example : Target.through ⟨"app",["base","more","base"]⟩ "base" = .ok ⟨"app",["base"]⟩ := by decide

end Artifact

end LedgerRehearsal
