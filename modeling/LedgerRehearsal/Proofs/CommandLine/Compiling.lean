import LedgerRehearsal.Proofs.Artifact
import LedgerRehearsal.Proofs.CommandLine.Ending
import LedgerRehearsal.Proofs.Rehearsal.Source
import LedgerRehearsal.Proofs.Truncation

/-! Compiling, from the line to the file. Either everything is there that the target needs, and the
document is written to one file, or the line fails and every file is as it was; only where writing
itself fails, a part of the document may be left. No settings of the ledger are needed: they make a
difference only to whether the line is accepted at all. -/
namespace LedgerRehearsal

open Artifact

/-- How a line ends, and the files after it. -/
structure Aftermath where
  ending : Ending
  files : Files
deriving DecidableEq

theorem Ending.ofLines_singleton (line : String) : ofLines [line] = ⟨0,line ++ "\n"⟩ := by
  simp [ofLines,String.join]

/-- The files are those that the job left, whether it failed or not. -/
def Aftermath.ofResult (result : Except Setback Product) : Aftermath where
  ending := .ofResult result
  files := match result with
    | .ok product => product.files
    | .error setback => setback.files

/-- What comes of a line when the job that it starts is played. -/
def aftermathOf [Diagnostics] {σ : Type} (files : Files) (words : List String) (environment : Option String)
    (surroundings : Job → Surroundings σ) (world : World σ) : Aftermath :=
  match Job.ofLine files words environment with
  | .error ending => ⟨ending,files⟩
  | .ok job => .ofResult ((surroundings job).play job.run.run world).1

/-- The stages that a line is about: all of a target, or those up to the first of a name. -/
inductive Chosen (manifest : BuildManifest) (choice : TargetChoice) : List String → Prop where
  | whole {stages : List String} : manifest.targets.lookup choice.target = some stages →
      choice.through = none → Chosen manifest choice stages
  | front {stages : List String} {stage : String} {place : Nat} :
      manifest.targets.lookup choice.target = some stages → choice.through = some stage →
      Target.FirstAt stage stages place → Chosen manifest choice (stages.take (place + 1))

/-- Everything is there that is compiled: the source tree with its manifest, the stages, and an
artifact of each of them. -/
inductive Assembles [Diagnostics] (files : Files) (source : Path) (choice : TargetChoice) :
    List Artifact → Prop where
  | intro {root : Path} {manifest : BuildManifest} {stages : List String}
      {artifacts : List Artifact} :
      files.resolve source = .ok root → BuildManifest.load files root = .ok manifest →
      Chosen manifest choice stages →
      List.Forall₂ (fun stage artifact => assembleStage files root stage = .ok artifact)
        stages artifacts →
      Assembles files source choice artifacts

section

variable {manifest : BuildManifest} {choice : TargetChoice} {target : Target}

theorem resolve_eq_ok :
    choice.resolve manifest = .ok target ↔
      target.name = choice.target ∧ Chosen manifest choice target.stages := by
  obtain ⟨name,stages⟩ := target
  rw [TargetChoice.resolve,Except.bind_eq_ok,BuildManifest.target]
  cases found : manifest.targets.lookup choice.target with
  | none =>
    constructor
    · rintro ⟨_,impossible,-⟩
      contradiction
    · rintro ⟨-,⟨listed,-⟩ | ⟨listed,-,-⟩⟩ <;> rw [found] at listed <;> contradiction
  | some whole =>
    cases cut : choice.through with
    | none =>
      constructor
      · rintro ⟨_,⟨⟩,⟨⟩⟩
        exact ⟨rfl,.whole found cut⟩
      · rintro ⟨rfl,⟨listed,-⟩ | ⟨-,named,-⟩⟩
        · obtain rfl := Option.some.inj (listed.symm.trans found)
          exact ⟨_,rfl,rfl⟩
        · rw [cut] at named
          contradiction
    | some stage =>
      constructor
      · rintro ⟨_,⟨⟩,resolved⟩
        obtain ⟨place,first,same⟩ := Target.through_eq_ok.mp resolved
        cases same
        exact ⟨rfl,.front found cut first⟩
      · rintro ⟨rfl,⟨-,named⟩ | ⟨listed,named,first⟩⟩
        · rw [cut] at named
          contradiction
        · obtain rfl := Option.some.inj (listed.symm.trans found)
          obtain rfl := Option.some.inj (cut.symm.trans named)
          exact ⟨_,rfl,Target.through_eq_ok.mpr ⟨_,first,rfl⟩⟩

end

section

variable {σ ε α β : Type} (surroundings : Surroundings σ) (world : World σ)

/-- An attempt that goes on is played with the value of its first part. -/
theorem Surroundings.play_bind (attempt : Attempt ε α) (next : α → Attempt ε β) :
    (surroundings.play (attempt >>= next).run world).1 =
      (surroundings.play attempt.run world).1 >>= fun value =>
        (surroundings.play (next value).run (surroundings.play attempt.run world).2).1 := by
  rw [ExceptT.run_bind,play]
  refine (congrArg Prod.fst (Run.play_bind _ _ _ _)).trans ?_
  cases given : (surroundings.play attempt.run world).1 with
  | error error =>
    rw [play] at given
    rw [given]
    rfl
  | ok value =>
    rw [play] at given
    rw [given]
    rfl

theorem Surroundings.play_mapError {δ : Type} (f : ε → δ) (attempt : Attempt ε α) :
    (surroundings.play (attempt.mapError f).run world).1 =
      (surroundings.play attempt.run world).1.mapError f :=
  congrArg Prod.fst (Run.play_bind surroundings.answer attempt.run _ world)

theorem play_writeArtifact (files : Files) (output : Path) (artifacts : List Artifact) :
    (surroundings.play (writeArtifact files output artifacts).run world).1 =
      match files.write output (contents artifacts) with
      | (.ok _,after) => .ok (after,digest artifacts)
      | (.error error,_) => .error (.artifactWrite output error.reason) := by
  unfold writeArtifact
  rcases files.write output (contents artifacts) with ⟨_ | _,_⟩ <;> rfl

/-- What writing the document comes to. -/
def outcomeOf (files : Files) (output : Path) (artifacts : List Artifact) : Except Setback Product :=
  match files.write output (contents artifacts) with
  | (.ok _,after) => .ok ⟨after,[digest artifacts ++ "  " ++ output.text]⟩
  | (.error error,after) => .error ⟨.artifactWrite output error.reason,after⟩

/-- What writing comes to, by whether the text is accepted. -/
theorem outcomeOf_cases (files : Files) (output : Path) (artifacts : List Artifact) :
    (∃ place, files.Accepts output (contents artifacts) place ∧ outcomeOf files output artifacts =
      .ok ⟨files.set place (Files.taking (contents artifacts) (files.at? place)),
        [digest artifacts ++ "  " ++ output.text]⟩) ∨
    (¬ ∃ place, files.Accepts output (contents artifacts) place) ∧ ∃ failure,
      outcomeOf files output artifacts =
        .error ⟨failure,(files.write output (contents artifacts)).2⟩ := by
  by_cases accepted : ∃ place, files.Accepts output (contents artifacts) place
  · obtain ⟨place,accepts⟩ := accepted
    refine .inl ⟨place,accepts,?_⟩
    rw [outcomeOf,Files.write_accepted accepts]
  · refine .inr ⟨accepted,?_⟩
    unfold outcomeOf
    split
    · rename_i written
      obtain ⟨place,accepts,-⟩ := Files.write_eq_ok.mp written
      exact absurd ⟨place,accepts⟩ accepted
    · rename_i written
      exact ⟨_,by rw [written]⟩

end

section

variable [Diagnostics] {files : Files} {source output : Path} {choice : TargetChoice}
  {artifacts : List Artifact}

/-- What compiling comes to. Nothing in it is asked of the ledger, the clock or the signal. -/
def compiled (files : Files) (source : Path) (choice : TargetChoice) (output : Path) :
    Except Setback Product := do
  let unchanged (failure : Failure) : Setback := ⟨failure,files⟩
  let root ← (Job.resolveSource files source).mapError (unchanged ∘ .settings)
  let manifest ← (BuildManifest.load files root).mapError (unchanged ∘ .settings)
  let target ← (choice.resolve manifest).mapError (unchanged ∘ .settings)
  let artifacts ← (assemble files root target.stages).mapError (unchanged ∘ .template)
  outcomeOf files output artifacts

theorem Assembles.unique {others : List Artifact} (first : Assembles files source choice artifacts)
    (second : Assembles files source choice others) : others = artifacts := by
  obtain ⟨resolved,loaded,chosen,assembled⟩ := first
  obtain ⟨resolved',loaded',chosen',assembled'⟩ := second
  obtain rfl := Except.ok.inj (resolved.symm.trans resolved')
  obtain rfl := Except.ok.inj (loaded.symm.trans loaded')
  have same : choice.resolve _ = .ok ⟨choice.target,_⟩ := resolve_eq_ok.mpr ⟨rfl,chosen⟩
  have same' : choice.resolve _ = .ok ⟨choice.target,_⟩ := resolve_eq_ok.mpr ⟨rfl,chosen'⟩
  obtain rfl := congrArg Target.stages (Except.ok.inj (same.symm.trans same'))
  exact Except.ok.inj ((Except.mapM_eq_ok.mpr assembled').symm.trans
    (Except.mapM_eq_ok.mpr assembled))

/-- Where everything is there, compiling comes to writing the document. -/
theorem compiled_of_assembles (assembles : Assembles files source choice artifacts) :
    compiled files source choice output = outcomeOf files output artifacts := by
  obtain @⟨root,manifest,stages,artifacts,resolved,loaded,chosen,assembled⟩ := assembles
  have found : choice.resolve manifest = .ok ⟨choice.target,stages⟩ := resolve_eq_ok.mpr ⟨rfl,chosen⟩
  have made : assemble files root stages = .ok artifacts := Except.mapM_eq_ok.mpr assembled
  simp only [compiled,Job.resolveSource,resolved,loaded,found,made,Except.mapError,bind,Except.bind]

/-- Where something is missing, compiling fails before anything is written. -/
theorem compiled_of_missing (missing : ¬ ∃ artifacts, Assembles files source choice artifacts) :
    ∃ failure, compiled files source choice output = .error ⟨failure,files⟩ := by
  unfold compiled
  cases resolved : Job.resolveSource files source with
  | error error => exact ⟨_,rfl⟩
  | ok root =>
    cases loaded : BuildManifest.load files root with
    | error error =>
      simp only [Except.mapError,bind,Except.bind,loaded]
      exact ⟨_,rfl⟩
    | ok manifest =>
      cases found : choice.resolve manifest with
      | error error =>
        simp only [Except.mapError,bind,Except.bind,loaded,found]
        exact ⟨_,rfl⟩
      | ok target =>
        cases made : assemble files root target.stages with
        | error error =>
          simp only [Except.mapError,bind,Except.bind,loaded,found,made]
          exact ⟨_,rfl⟩
        | ok artifacts =>
          have resolved := Except.mapError_eq_ok.mp resolved
          exact absurd ⟨artifacts,.intro resolved loaded (resolve_eq_ok.mp found).2
            (Except.mapM_eq_ok.mp made)⟩ missing

theorem play_compile_job {σ : Type} (surroundings : Surroundings σ) (world : World σ) (root : Path)
    (target : Target) :
    (surroundings.play (Job.compile files root target output).run.run world).1 =
      ((assemble files root target.stages).mapError fun error => ⟨.template error,files⟩) >>=
        outcomeOf files output := by
  rw [Job.compile,Surroundings.play_bind,Surroundings.play_mapError,
    Rehearsal.play_compileTarget]
  cases assemble files root target.stages with
  | error error => rfl
  | ok artifacts =>
    refine (Surroundings.play_bind _ _ _ _).trans ?_
    rw [Surroundings.play_mapError,play_writeArtifact]
    change _ = outcomeOf files output artifacts
    unfold outcomeOf
    rcases files.write output (contents artifacts) with ⟨error | _,after⟩ <;> rfl

end

section

variable {words : List String} {environment other : Option String} {arguments : Arguments}

/-- Only the empty text is no path of a settings file. -/
theorem configOf_cases (scan : Scan) (environment : Option String) :
    (∃ config, Arguments.configOf scan environment = .ok config) ∨
      environment = some "" ∧ Arguments.configOf scan environment = .error .invalidValue := by
  unfold Arguments.configOf
  cases scan.values.lookup .config with
  | some config => exact .inl ⟨_,rfl⟩
  | none =>
    cases environment with
    | none => exact .inl ⟨_,rfl⟩
    | some config =>
      by_cases empty : config = ""
      · subst empty
        exact .inr ⟨rfl,rfl⟩
      · exact .inl ⟨some config,if_pos (decide_eq_true empty)⟩

/-- A line means the same under every setting of the environment but the empty text, which may make
it a line that is refused. -/
theorem parse_environment (parsed : Arguments.parse words environment = .ok arguments)
    (other : Option String) :
    (∃ config, Arguments.parse words other = .ok { arguments with config }) ∨
      other = some "" ∧ Arguments.parse words other = .error .invalidValue := by
  unfold Arguments.parse at parsed ⊢
  obtain ⟨⟨outer,command⟩,scanned,parsed⟩ := Except.bind_eq_ok.mp parsed
  rw [scanned]
  cases command with
  | none =>
    obtain ⟨_,-,parsed⟩ := Except.bind_eq_ok.mp parsed
    obtain ⟨_,-,parsed⟩ := Except.bind_eq_ok.mp parsed
    split at parsed <;> contradiction
  | some rest =>
    obtain ⟨name,rest⟩ := rest
    obtain ⟨⟨inner,_⟩,scannedRest,parsed⟩ := Except.bind_eq_ok.mp parsed
    obtain ⟨settledInner,settlesInner,parsed⟩ := Except.bind_eq_ok.mp parsed
    obtain ⟨innerConfig,-,parsed⟩ := Except.bind_eq_ok.mp parsed
    obtain ⟨command,commanded,parsed⟩ := Except.bind_eq_ok.mp parsed
    obtain ⟨settledOuter,settlesOuter,parsed⟩ := Except.bind_eq_ok.mp parsed
    obtain ⟨outerConfig,-,same⟩ := Except.bind_eq_ok.mp parsed
    obtain rfl := Except.ok.inj same
    rcases configOf_cases settledInner other with ⟨config,inside⟩ | ⟨empty,inside⟩
    · rcases configOf_cases settledOuter other with ⟨config',outside⟩ | ⟨empty,outside⟩
      · let given := (settledInner.values.lookup .config).isSome
        refine .inl ⟨if given then config else config',?_⟩
        simp only [bind,Except.bind,scannedRest,settlesInner,inside,commanded,settlesOuter,outside]
        rfl
      · refine .inr ⟨empty,?_⟩
        simp only [bind,Except.bind,scannedRest,settlesInner,inside,commanded,settlesOuter,outside]
    · refine .inr ⟨empty,?_⟩
      simp only [bind,Except.bind,scannedRest,settlesInner,inside]

end

section

variable [Diagnostics] {σ : Type} {files : Files} {words : List String} {environment : Option String}
  {arguments : Arguments} {choice : TargetChoice} {output : String}

theorem aftermathOf_compile (parsed : Arguments.parse words environment = .ok arguments)
    (asked : arguments.command = .compile choice output) (surroundings : Job → Surroundings σ)
    (world : World σ) :
    aftermathOf files words environment surroundings world =
      .ofResult (compiled files ⟨arguments.source⟩ choice ⟨output⟩) := by
  obtain ⟨config,source,command⟩ := arguments
  obtain rfl : command = .compile choice output := asked
  unfold aftermathOf Job.ofLine Job.ofArguments compiled
  rw [parsed]
  simp only [Except.mapError,bind,Except.bind]
  cases Job.resolveSource files ⟨source⟩ with
  | error error => rfl
  | ok root =>
    dsimp only
    cases BuildManifest.load files root with
    | error error => rfl
    | ok manifest =>
      dsimp only
      cases choice.resolve manifest with
      | error error => rfl
      | ok target => exact congrArg Aftermath.ofResult (play_compile_job _ _ _ _)

/-- All or nothing: a line that succeeds has written its output and nothing else, and one that fails
before it writes has written nothing. -/
structure AllOrNothing (files : Files) (source : Path) (choice : TargetChoice) (output : Path)
    (after : Aftermath) : Prop where
  succeeds : after.ending.code = 0 ↔ ∃ artifacts place, Assembles files source choice artifacts ∧
    files.Accepts output (contents artifacts) place
  all {artifacts : List Artifact} {place : Place} : Assembles files source choice artifacts →
    files.Accepts output (contents artifacts) place →
      after.ending.output = digest artifacts ++ "  " ++ output.text ++ "\n" ∧
        files.Written after.files place (Files.taking (contents artifacts) (files.at? place)) ∧
          (¬ files.IsDevice output → after.files.read output = .ok (render artifacts ++ "\n"))
  nothing : (¬ ∃ artifacts, Assembles files source choice artifacts) →
    after.ending.code = 1 ∧ after.files = files
  unwritten {artifacts : List Artifact} : Assembles files source choice artifacts →
    (¬ ∃ place, files.Accepts output (contents artifacts) place) →
      after.ending.code = 1 ∧ after.files = (files.write output (contents artifacts)).2 ∧
        ∀ place, files.placeForWriting output = .ok place →
          ∀ other ≠ place, after.files.at? other = files.at? other

theorem allOrNothing (source : Path) (output : Path) :
    AllOrNothing files source choice output (.ofResult (compiled files source choice output)) := by
  by_cases whole : ∃ artifacts, Assembles files source choice artifacts
  · obtain ⟨artifacts,assembles⟩ := whole
    rw [compiled_of_assembles assembles]
    rcases outcomeOf_cases files output artifacts with
      ⟨place,accepts,outcome⟩ | ⟨refused,failure,outcome⟩
    · have written : files.Written
          (files.set place (Files.taking (contents artifacts) (files.at? place))) place _ :=
        Files.written_set (Files.free_of_placeForWriting accepts.found).1 (Files.taking_solid _ _)
      rw [outcome]
      refine ⟨iff_of_true rfl ⟨artifacts,place,assembles,accepts⟩,fun {others place'} again taken => ?_,
        fun none => absurd ⟨artifacts,assembles⟩ none,fun {others} again none => ?_⟩
      · obtain rfl := assembles.unique again
        obtain rfl := Except.ok.inj (accepts.found.symm.trans taken.found)
        exact ⟨congrArg Ending.output (Ending.ofLines_singleton _),written,
          Files.read_write (Files.write_accepted accepts)⟩
      · obtain rfl := assembles.unique again
        exact absurd ⟨place,accepts⟩ none
    · rw [outcome]
      refine ⟨iff_of_false nofun ?_,fun {others place} again taken => ?_,
        fun none => absurd ⟨artifacts,assembles⟩ none,fun {others} again _ => ?_⟩
      · rintro ⟨others,place,again,taken⟩
        obtain rfl := assembles.unique again
        exact refused ⟨place,taken⟩
      · obtain rfl := assembles.unique again
        exact absurd ⟨place,taken⟩ refused
      · obtain rfl := assembles.unique again
        exact ⟨rfl,rfl,fun place found other apart => Files.write_elsewhere found apart⟩
  · obtain ⟨failure,failed⟩ : ∃ failure,
        compiled files source choice output = .error ⟨failure,files⟩ := compiled_of_missing whole
    rw [failed]
    refine ⟨iff_of_false nofun ?_,fun assembles => absurd ⟨_,assembles⟩ whole,fun _ => ⟨rfl,rfl⟩,
      fun assembles => absurd ⟨_,assembles⟩ whole⟩
    rintro ⟨artifacts,_,assembles,-⟩
    exact whole ⟨artifacts,assembles⟩

end

/-- A tree with two targets and a file where its output goes. -/
def oldOutput (room : Option Nat) : Files :=
  { (twoForms.set ["build.json"] (.text "\x7b\"app\":[\"base\",\"more\"]\x7d")).set ["out.json"]
    (.text "old") with room }

/-- The front of the target can be compiled, with room for it and without. -/
theorem oldOutput_assembles {room : Option Nat} (either : room = none ∨ room = some 1) :
    Assembles (oldOutput room) ⟨"."⟩ ⟨"app",some "base"⟩ (twoFormsArtifacts.take 1) := by
  have first : Target.FirstAt "base" ["base","more"] 0 := Target.firstAt_iff.mpr rfl
  have resolved : (oldOutput room).resolve ⟨"."⟩ = .ok ⟨"/"⟩ := by
    rcases either with rfl | rfl <;> decide +kernel
  have loaded : BuildManifest.load (oldOutput room) ⟨"/"⟩ = .ok ⟨[("app",["base","more"])]⟩ := by
    rcases either with rfl | rfl <;> decide +kernel
  refine .intro resolved loaded (.front (by decide +kernel) rfl first) (.cons ?_ .nil)
  rcases either with rfl | rfl <;> decide +kernel

end LedgerRehearsal
