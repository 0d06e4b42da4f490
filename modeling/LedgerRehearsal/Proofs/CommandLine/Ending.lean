import LedgerRehearsal.CommandLine.Job
import LedgerRehearsal.Http.Script
import LedgerRehearsal.Ledger.InMemory
import LedgerRehearsal.Proofs.Failure.Source
import LedgerRehearsal.Proofs.InTurn
import LedgerRehearsal.Proofs.Result

/-! How a line ends. Whatever the arguments, the files and the ledger, a line that fails prints its
failure behind fixed words and ends the line. The failure quotes names, paths and answers as they
are, so it fills one line when what it quotes does, and breaks it where what it quotes is broken. -/
namespace LedgerRehearsal

open Json

theorem writeArtifact_worded (files : Files) (path : Path) (artifacts : List Artifact) :
    (writeArtifact files path artifacts).Raises Failure.Worded := by
  unfold writeArtifact
  split
  · rename_i error _ _
    exact .throw (.artifactWrite path error.oneLine_reason)
  · exact .bind (.lift _) fun _ => .pure _

theorem compileTarget_worded [Diagnostics] (files : Files) (root : Path) (target : Target) :
    (compileTarget files root target).Raises Failure.Worded := by
  refine .bind (.lift _) fun _ => ?_
  split
  · exact .bind (.lift _) fun _ => .pure _
  · rename_i error failed
    have worded := Raises.mapM (Artifact.assembleStage_worded files root) target.stages error failed
    exact .bind (.lift _) fun _ => .throw (.template worded)

namespace Rehearsal

variable (rehearsal : Rehearsal)

theorem setUpSchema_worded (database : DatabaseId) (stage : String) (artifacts : List Artifact) :
    (rehearsal.setUpSchema database stage artifacts).Raises Failure.Worded := by
  refine .bind (.mapError .ledger _) fun _ => .forM (fun artifact => ?_) artifacts
  unfold applyArtifact
  split
  · exact .lift _
  · refine .bind (.lift _) fun reason => ?_
    cases reason with
    | none => exact .lift _
    | some reason => exact .bind (.lift _) fun _ => .throw (.schemaSetup _ _ _ _)

theorem testStage_worded (accumulated : List Artifact) (plan : StagePlan) :
    (rehearsal.testStage accumulated plan).Raises Failure.Worded :=
  .bind (.lift _) fun _ => .bind (.lift _) fun _ => .bind (.mapError .ledger _) fun _ =>
    .bind (rehearsal.setUpSchema_worded _ _ _) fun _ =>
    .bind (.mapM (fun _ => .mapError .scenario _) _) fun _ => .bind (.lift _) fun _ => .pure _

variable [Diagnostics]

theorem loadScenario_worded (dir : Path) (name : String) :
    (rehearsal.loadScenario dir name).Raises Failure.Worded := by
  refine .bind (.lift _) fun _ => ?_
  split
  · exact .pure _
  · rename_i failure failed
    have worded := Scenario.load_worded rehearsal.files dir name failure failed
    exact .bind (.lift _) fun _ => .throw worded

theorem loadStage_worded (stage : String) :
    (rehearsal.loadStage stage).Raises Failure.Worded :=
  .bind (.ofExcept (Scenario.settings_worded (loadScenarioNames_worded _ _))) fun names =>
    .bind (.mapM (rehearsal.loadScenario_worded _) names) fun _ => .bind (.lift _) fun _ => .pure _

theorem test_worded : rehearsal.test.Raises Failure.Worded := by
  refine .bind ?_ fun (artifacts,plans) => .bind (.mapError .ledger _) fun _ =>
    .mapM (fun (accumulated,plan) => rehearsal.testStage_worded accumulated plan) _
  exact .bind (compileTarget_worded _ _ _) fun _ =>
    .bind (.mapM rehearsal.loadStage_worded _) fun _ => .pure _

theorem deploy_worded (name : String) : (rehearsal.deploy name).Raises Failure.Worded :=
  .bind (compileTarget_worded _ _ _) fun _ => .bind (.mapError .ledger _) fun _ =>
    .bind (.mapError .ledger _) fun _ => .bind (rehearsal.setUpSchema_worded _ _ _) fun _ =>
    .bind (.lift _) fun _ => .pure _

end Rehearsal

namespace Job

variable (files : Files)

theorem resolve_worded (choice : TargetChoice) (manifest : BuildManifest) :
    Raises SettingsError.Worded (choice.resolve manifest) := by
  refine .bind ?_ fun target => ?_
  · unfold BuildManifest.target
    split
    · exact .ok _
    · exact .error (.unknownTarget _)
  · split
    · unfold Target.through
      split
      · exact .ok _
      · exact .error (.unknownStage _ _)
    · exact .ok _

variable [Diagnostics]

theorem connect_worded (manifest : BuildManifest) (config : Option Path) (choice : TargetChoice) :
    Raises SettingsError.Worded (connect files manifest config choice) :=
  .bind (Settings.load_worded files config none) fun _ =>
    .bind (resolve_worded choice manifest) fun _ => .ok _

theorem ofArguments_worded (arguments : Arguments) :
    Raises SettingsError.Worded (ofArguments files arguments) := by
  refine .bind (.mapError fun error _ => .unreadable _ error.oneLine_reason) fun root => ?_
  refine .bind (BuildManifest.load_worded files root) fun manifest => ?_
  dsimp only
  split
  · exact .bind (resolve_worded _ manifest) fun _ => .ok _
  · exact .bind (connect_worded files manifest _ _) fun _ => .ok _
  · exact .bind (connect_worded files manifest _ _) fun _ => .ok _
  · exact .ok _

theorem run_worded {arguments : Arguments} {job : Job}
    (started : ofArguments files arguments = .ok job) :
    job.run.Raises fun setback => setback.failure.Worded := by
  obtain ⟨root,-,started⟩ := Except.bind_eq_ok.mp started
  obtain ⟨manifest,-,started⟩ := Except.bind_eq_ok.mp started
  dsimp only at started
  split at started
  · obtain ⟨target,-,same⟩ := Except.bind_eq_ok.mp started
    obtain rfl := Except.ok.inj same
    exact .bind (.changed (compileTarget_worded _ _ _) fun _ worded => worded) fun _ =>
      .bind (.changed (writeArtifact_worded _ _ _) fun _ worded => worded) fun _ => .pure _
  · obtain ⟨_,-,same⟩ := Except.bind_eq_ok.mp started
    obtain rfl := Except.ok.inj same
    refine .changed ?_ fun _ worded => worded
    exact .bind (.lift _) fun _ => .bind (Rehearsal.deploy_worded _ _) fun _ => .pure _
  · obtain ⟨_,-,same⟩ := Except.bind_eq_ok.mp started
    obtain rfl := Except.ok.inj same
    refine .changed ?_ fun _ worded => worded
    exact .bind (.lift _) fun _ => .bind (Rehearsal.test_worded _) fun _ => .pure _
  · obtain rfl := Except.ok.inj started
    exact .pure _

end Job

section

variable [Diagnostics]

/-- The failure for which a line starts no job, if it is no misuse of the program. -/
def startFailure? (files : Files) (words : List String) (environment : Option String) :
    Option Failure :=
  match Arguments.parse words environment with
  | .error _ => none
  | .ok arguments => (errorOf? (Job.ofArguments files arguments)).map .settings

/-- The failure that a job ended with, if it failed. -/
def runFailure? (result : Except Setback Product) : Option Failure := (errorOf? result).map (·.failure)

/-- The ways in which a line can end, with the failure that ended it if there was one, for any answers
of the ledger, the clock and the signal. -/
inductive Ends (files : Files) (words : List String) (environment : Option String) :
    Option Failure → Ending → Prop where
  | unstarted {ending : Ending} :
      Job.ofLine files words environment = .error ending →
      Ends files words environment (startFailure? files words environment) ending
  | played {job : Job} {events : List Event} {result : Except Setback Product} :
      Job.ofLine files words environment = .ok job → Run.Trace job.run.run events result →
      Ends files words environment (runFailure? result) (.ofResult result)

variable {files : Files} {words : List String} {environment : Option String} {ending : Ending}
  {failure? : Option Failure}

/-- A line that was ended by a failure reports it, and the failure words itself on one line; any other
line ends in another way. -/
def Reports (ending : Ending) : Option Failure → Prop
  | none => ending.code ≠ 1
  | some failure => failure.Worded ∧ ending = .ofFailure failure

theorem unstarted_reports (unstarted : Job.ofLine files words environment = .error ending) :
    Reports ending (startFailure? files words environment) := by
  unfold startFailure?
  unfold Job.ofLine at unstarted
  cases parsed : Arguments.parse words environment with
  | error usage =>
    rw [parsed] at unstarted
    obtain rfl := Except.error.inj unstarted
    cases usage <;> exact nofun
  | ok arguments =>
    rw [parsed] at unstarted
    obtain ⟨error,refused,rfl⟩ := Except.mapError_eq_error.mp unstarted
    simp only [refused]
    exact ⟨.settings (Job.ofArguments_worded files arguments error refused),rfl⟩

theorem Ends.reports (ends : Ends files words environment failure? ending) :
    Reports ending failure? := by
  cases ends with
  | unstarted refused => exact unstarted_reports refused
  | @played job events result started trace =>
    obtain ⟨arguments,-,started⟩ := Except.bind_eq_ok.mp started
    cases result with
    | ok product => exact nofun
    | error setback =>
      exact ⟨Job.run_worded files (Except.mapError_eq_ok.mp started) events setback trace,rfl⟩

/-- A line fails when a failure ended it, and then it prints that failure behind fixed words. What is
printed is one line when all texts that the failure quotes are on one line, for the words around them
never break it; a text that is quoted with a line break in it breaks the line. -/
theorem failure_printed (ends : Ends files words environment failure? ending) :
    (ending.code = 1 ↔ failure?.isSome) ∧ ∀ failure ∈ failure?,
      ending.output = "error: " ++ failure.message ++ "\n" ∧
        (IsLine ending.output ↔ ∀ text ∈ failure.quotes, OneLine text) := by
  have reports := ends.reports
  cases failure? with
  | none => exact ⟨iff_of_false reports nofun,nofun⟩
  | some failure =>
    obtain ⟨worded,rfl⟩ := reports
    have output : (Ending.ofFailure failure).output = "error: " ++ failure.message ++ "\n" := rfl
    have words : OneLine "error: " := by decide
    refine ⟨iff_of_true rfl rfl,fun _ same => ?_⟩
    obtain rfl := Option.some.inj same
    refine ⟨output,?_⟩
    rw [output,isLine_append,oneLine_append,failure.oneLine_message worded]
    exact and_iff_right words

/-- How a line ends when the job that it starts is played, and the failure that ended it. -/
def endingOf {σ : Type} (files : Files) (words : List String) (environment : Option String)
    (surroundings : Job → Surroundings σ) (world : World σ) : Option Failure × Ending :=
  match Job.ofLine files words environment with
  | .error ending => (startFailure? files words environment,ending)
  | .ok job =>
    let result := ((surroundings job).play job.run.run world).1
    (runFailure? result,.ofResult result)

theorem ends_endingOf {σ : Type} (files : Files) (words : List String) (environment : Option String)
    (surroundings : Job → Surroundings σ) (world : World σ) :
    let ended := endingOf files words environment surroundings world
    Ends files words environment ended.1 ended.2 := by
  unfold endingOf
  split
  · exact .unstarted ‹_›
  · exact .played ‹_› (Run.trace_history _ _ _).1

end

/-- A tree with one target of no stages, and settings. -/
def bareTree : Files where
  entries := [
    (["build.json"],.text "\x7b\"app\":[]\x7d"),
    (["c.toml"],.text ("ledger=[\"http://ledger\",\"net\",1]\nroot_key=[\"key\",\"root\"]\n" ++
      "polling=[1,1]\nmarkers=[[\"error\"]]\n"))]
  workingDirectory := []

theorem unknownTarget_printed :
    let line := ["compile","other","-o","out.json"]
    let failure := Failure.settings (.unknownTarget "other")
    let ending : Ending := ⟨1,"error: Config error: Unknown build target: other\n"⟩
    Ends bareTree line none (some failure) ending ∧
      ending.output = "error: " ++ failure.message ++ "\n" ∧
      (IsLine ending.output ↔ ∀ text ∈ failure.quotes, OneLine text) ∧ IsLine ending.output := by
  intro line failure ending
  have played : endingOf bareTree line none (fun _ => LedgerRules.plain.surroundings)
      (.start .empty []) = (some failure,ending) := by decide +kernel
  have ends : Ends bareTree line none (some failure) ending := by
    simpa only [played] using ends_endingOf bareTree line none
      (fun _ => LedgerRules.plain.surroundings) (.start .empty [])
  obtain ⟨-,printed⟩ := failure_printed ends
  obtain ⟨output,lines⟩ := printed failure rfl
  exact ⟨ends,output,lines,by decide⟩

/-- A server that is well and answers everything else with a report of two lines. -/
def talkative : ScriptedServer :=
  ⟨"ledger",[⟨none,some "/fdb/health",none,none,none,.respond ⟨200,""⟩⟩,
    ⟨none,none,none,none,none,.respond ⟨500,"line one\nline two"⟩⟩],[]⟩

/-- What the ledger says is passed on as it is, and so two lines are printed. -/
theorem talkative_breaks :
    let line := ["deploy","app","-d","x","--config","c.toml"]
    ∃ failure ending, Ends bareTree line none (some failure) ending ∧ ending.code = 1 ∧
      ¬ IsLine ending.output := by
  intro line
  have played : endingOf bareTree line none (fun job => ScriptedServer.surroundings job.remote)
      (.start talkative []) =
      (some (.ledger (.rejected 500 "line one\nline two")),
        ⟨1,"error: Ledger error: Ledger rejected request with status 500: line one\nline two\n"⟩) := by
    decide +kernel
  have ends := ends_endingOf bareTree line none
    (fun job => ScriptedServer.surroundings job.remote) (.start talkative [])
  rw [played] at ends
  exact ⟨_,_,ends,rfl,by decide⟩

end LedgerRehearsal
