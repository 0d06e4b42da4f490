import LedgerRehearsal.Expander
import LedgerRehearsal.Proofs.Artifact
import LedgerRehearsal.Proofs.Files.Name
import LedgerRehearsal.Proofs.Rehearsal.Source

/-! The expander beside the assembly of a stage. Both read the same file and expand it with the same
directory, which the one takes from the path of the file and the other from the name of the stage.
Only the assembly asks first whether it is a file, so a device or a pipe tells them apart. -/
namespace LedgerRehearsal.Expander

open Json Artifact

variable {files : Files} {root path : Path} {stage : String} {templates : Transaction}

section

variable [Diagnostics]

theorem readTemplates_eq_ok :
    readTemplates files path = .ok templates ↔ ∃ document,
      readDocument files path = .ok document ∧ Transaction.ofValue document = .ok templates := by
  simp only [readTemplates,Except.bind_eq_ok,Except.mapError_eq_ok,readDocument_eq_ok,readJson_eq_ok]

/-- A stage without a file that is taken as it is, by what the expander reads of it. -/
theorem assembleStage_iff_readTemplates (absent : files.isFile (verbatimFile root stage) = false)
    (plain : ¬ files.IsDevice ((root.join stage).join mainFile)) {artifact : Artifact} :
    assembleStage files root stage = .ok artifact ↔ artifact.stage = stage ∧ ∃ templates,
      readTemplates files ((root.join stage).join mainFile) = .ok templates ∧
        templates.expand files (root.join stage) = .ok artifact.operations := by
  have other : ¬ files.isFile (verbatimFile root stage) = true := by simp [absent]
  constructor
  · intro assembled
    obtain ⟨document,templates,read,listed,taken⟩ := assembleStage_eq_ok assembled
    rw [source,if_neg other] at read
    rw [if_neg other] at taken
    exact ⟨stage_of_assembleStage assembled,templates,readTemplates_eq_ok.mpr ⟨document,read,listed⟩,
      taken⟩
  · rintro ⟨rfl,templates,read,expanded⟩
    obtain ⟨document,read,listed⟩ := readTemplates_eq_ok.mp read
    obtain ⟨text,given,-⟩ := readDocument_eq_ok.mp read
    have file := Files.isFile_of_read given plain
    rw [verbatimFile] at other
    unfold assembleStage
    dsimp only
    rw [if_neg other,if_pos file]
    refine Except.bind_eq_ok.mpr ⟨document,read,Except.bind_eq_ok.mpr ⟨templates,listed,?_⟩⟩
    exact Except.bind_eq_ok.mpr ⟨artifact.operations,expanded,rfl⟩

/-- The expander prints what the operations of a file are expanded to, or only reports. -/
theorem run_ended (files : Files) (path : Path) (others : List String) :
    (∃ templates expanded, readTemplates files path = .ok templates ∧
      templates.expand files (directoryOf path) = .ok expanded ∧
      run files (path.text :: others) =
        ⟨0,expanded.toValue.canonicalPretty ++ "\n",summary templates (directoryOf path)⟩) ∨
    (∀ templates, readTemplates files path = .ok templates → ∃ error,
      templates.expand files (directoryOf path) = .error error) ∧
      ∃ report, run files (path.text :: others) = ⟨1,"",report⟩ := by
  cases read : readTemplates files path with
  | error message => exact .inr ⟨nofun,errorLine message,by rw [run,read]⟩
  | ok templates =>
    cases expanded : templates.expand files (directoryOf path) with
    | error error =>
      refine .inr ⟨?_,summary templates (directoryOf path) ++ errorLine error.message,?_⟩
      · rintro _ ⟨⟩
        exact ⟨error,expanded⟩
      · simp only [run,read,expanded]
    | ok operations => exact .inl ⟨templates,operations,rfl,expanded,by simp only [run,read,expanded]⟩

/-- Shown the file with the templates of a stage, which is no device, the expander ends well exactly
when the stage can be assembled, and then it prints the artifact. Otherwise it prints nothing but a
report. -/
theorem run_mainFile (valid : isDirectoryName stage = true)
    (absent : files.isFile (verbatimFile root stage) = false)
    (plain : ¬ files.IsDevice ((root.join stage).join mainFile)) (others : List String) :
    let printout := run files (((root.join stage).join mainFile).text :: others)
    (printout.code = 0 ↔ ∃ artifact, assembleStage files root stage = .ok artifact) ∧
      (∀ artifact, assembleStage files root stage = .ok artifact →
        printout.output = artifact.toValue.canonicalPretty ++ "\n") ∧
      ∀ error, assembleStage files root stage = .error error →
        printout.code = 1 ∧ printout.output = "" := by
  intro printout
  have main : Path.IsName mainFile := Path.isName_of_valid (by decide)
  have dir : directoryOf ((root.join stage).join mainFile) = root.join stage := by
    rw [directoryOf,Path.parent?_join_join (Path.isName_of_valid valid) main,Option.getD_some]
  rcases run_ended files ((root.join stage).join mainFile) others with
    ⟨templates,operations,read,expanded,ended⟩ | ⟨failing,report,ended⟩
  · rw [dir] at expanded
    have assembled : assembleStage files root stage = .ok ⟨stage,operations⟩ :=
      (assembleStage_iff_readTemplates absent plain).mpr ⟨rfl,templates,read,expanded⟩
    refine ⟨⟨fun _ => ⟨_,assembled⟩,fun _ => congrArg Printout.code ended⟩,?_,?_⟩
    · intro artifact given
      obtain rfl := Except.ok.inj (assembled.symm.trans given)
      exact congrArg Printout.output ended
    · intro error failed
      exact nomatch assembled.symm.trans failed
  · have unassembled (artifact : Artifact) : assembleStage files root stage ≠ .ok artifact := by
      intro assembled
      obtain ⟨-,templates,read,expanded⟩ := (assembleStage_iff_readTemplates absent plain).mp assembled
      obtain ⟨error,failed⟩ := failing templates read
      rw [dir,expanded] at failed
      exact nomatch failed
    have bad : printout = ⟨1,"",report⟩ := ended
    refine ⟨⟨fun good => ?_,?_⟩,fun artifact assembled => absurd assembled (unassembled artifact),
      fun _ _ => ⟨congrArg Printout.code bad,congrArg Printout.output bad⟩⟩
    · rw [bad] at good
      exact absurd good Nat.one_ne_zero
    · rintro ⟨artifact,assembled⟩
      exact absurd assembled (unassembled artifact)

end

/-- The stage of `twoForms` that is expanded. -/
theorem twoForms_mainFile :
    isDirectoryName "more" = true ∧ twoForms.isFile (verbatimFile ⟨"."⟩ "more") = false ∧
      ¬ twoForms.IsDevice ((Path.join ⟨"."⟩ "more").join mainFile) ∧
      (run twoForms ["./more/main.json"]).code = 0 ∧
      (run twoForms ["./more/main.json"]).output =
        "[\n  \x7b\n    \"code\": \"(str \\\"a\\\\n\\\")\",\n    \"m\": \x7b\x7d\n  \x7d\n]\n" := by
  have valid : isDirectoryName "more" = true := by decide
  have absent : twoForms.isFile (verbatimFile ⟨"."⟩ "more") = false := by decide
  have plain : ¬ twoForms.IsDevice ((Path.join ⟨"."⟩ "more").join mainFile) := by
    rintro ⟨place,device,located,held⟩
    have found : twoForms.locate ((Path.join ⟨"."⟩ "more").join mainFile) = .ok ["more",mainFile] := by
      decide +kernel
    obtain rfl := Except.ok.inj (found.symm.trans located)
    cases held
  have assembled : assembleStage twoForms ⟨"."⟩ "more" =
      .ok ⟨"more",[⟨[("m",.object [])],some (.verbatim "(str \"a\\n\")")⟩]⟩ := rfl
  obtain ⟨ended,printed,-⟩ := run_mainFile valid absent plain []
  exact ⟨valid,absent,plain,ended.mpr ⟨_,assembled⟩,(printed _ assembled).trans (by decide +kernel)⟩

/-- A tree with two stages below the working directory, the templates of one of which are piped. -/
def pipedStage : Files where
  entries := [
    (["home"],.directory),
    (["home","base"],.directory),
    (["home","base","main.json"],.text "[]"),
    (["home","more"],.directory),
    (["home","more","main.json"],.special ⟨none,"[]",""⟩)]
  workingDirectory := ["home"]

/-- The expander reads a pipe, which no stage is assembled from. And it follows the path that it is
given as it is, so a name that is put behind the empty root with a slash leads it to the top, where
the assembly stays in the working directory. -/
theorem pipedStage_told :
    isDirectoryName "more" = true ∧ pipedStage.isFile (verbatimFile ⟨"."⟩ "more") = false ∧
      (run pipedStage ["./more/main.json"]).code = 0 ∧
      (assembleStage pipedStage ⟨"."⟩ "more").toBool = false ∧
    isDirectoryName "base" = true ∧ pipedStage.isFile (verbatimFile ⟨""⟩ "base") = false ∧
      (run pipedStage ["" ++ "/base/main.json"]).code = 1 ∧
      (assembleStage pipedStage ⟨""⟩ "base").toBool = true := by
  decide +kernel

end LedgerRehearsal.Expander
