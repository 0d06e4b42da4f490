import LedgerRehearsal.Proofs.Files
import LedgerRehearsal.Proofs.Json.Spelling
import LedgerRehearsal.Proofs.Operation
import LedgerRehearsal.Proofs.Trace
import LedgerRehearsal.Rehearsal

/-! Artifacts and the documents they come from and go to. What is written of a build is a document
of well-formed operations, so as the file of a stage it assembles to the same operations again. -/
namespace LedgerRehearsal

open Json

namespace Artifact

/-- The file of a stage that is taken as it is. -/
def verbatimFile (root : Path) (stage : String) : Path := root.join (stage ++ ".json")

/-- The file that the operations of a stage stand in. -/
def source (files : Files) (root : Path) (stage : String) : Path :=
  if files.isFile (verbatimFile root stage) then verbatimFile root stage
  else (root.join stage).join mainFile

variable {files : Files} {root : Path} {stage : String} {stages : List String}
  {artifact : Artifact} {artifacts : List Artifact}

/-- Writing a build makes its file hold exactly the contents. -/
theorem trace_writeArtifact {path : Path} {events : List Event} {after : Files} {printed : String}
    (plain : ¬ files.IsDevice path)
    (trace : Run.Trace (writeArtifact files path artifacts).run events (.ok (after,printed))) :
    after.read path = .ok (contents artifacts) ∧ printed = digest artifacts := by
  unfold writeArtifact at trace
  split at trace
  · obtain ⟨-,same⟩ := (Attempt.trace_throw _ _ _).mp trace
    cases same
  · rename_i written
    rcases (Attempt.trace_bind _ _ _ _).mp trace with ⟨_,-,same⟩ | ⟨_,_,_,-,last,-⟩
    · cases same
    obtain ⟨-,same⟩ := (Attempt.trace_pure _ _ _).mp last
    cases same
    exact ⟨Files.read_write written plain,rfl⟩

section

variable [Diagnostics]

theorem readDocument_eq_ok {path : Path} {document : Value} :
    readDocument files path = .ok document ↔
      ∃ text, files.read path = .ok text ∧ parse text = some document := by
  unfold readDocument
  split
  · rename_i failed
    simp [failed]
  · rename_i text given
    rw [given]
    split
    · rename_i found
      simp [found]
    · rename_i malformed
      simp [malformed]

/-- The operations of a stage, read from its file, and expanded unless the file is taken as it
is. -/
theorem assembleStage_eq_ok (assembled : assembleStage files root stage = .ok artifact) :
    ∃ document templates, readDocument files (source files root stage) = .ok document ∧
      Transaction.ofValue document = .ok templates ∧
      if files.isFile (verbatimFile root stage) then artifact.operations = templates
      else templates.expand files (root.join stage) = .ok artifact.operations := by
  unfold assembleStage at assembled
  dsimp only at assembled
  unfold source
  by_cases verbatim : files.isFile (verbatimFile root stage) = true
  · rw [← verbatimFile,if_pos verbatim] at assembled
    obtain ⟨document,read,assembled⟩ := Except.bind_eq_ok.mp assembled
    obtain ⟨operations,listed,same⟩ := Except.bind_eq_ok.mp assembled
    cases same
    refine ⟨document,operations,?_,listed,by rw [if_pos verbatim]⟩
    rw [if_pos verbatim]
    exact read
  · rw [← verbatimFile,if_neg verbatim] at assembled
    split at assembled
    · obtain ⟨document,read,assembled⟩ := Except.bind_eq_ok.mp assembled
      obtain ⟨templates,listed,assembled⟩ := Except.bind_eq_ok.mp assembled
      obtain ⟨operations,expanded,same⟩ := Except.bind_eq_ok.mp assembled
      cases same
      refine ⟨document,templates,?_,listed,?_⟩ <;> rw [if_neg verbatim]
      · exact read
      · exact expanded
    · cases assembled

theorem wellFormed_assembleStage (assembled : assembleStage files root stage = .ok artifact) :
    Transaction.WellFormed artifact.operations := by
  obtain ⟨document,templates,-,listed,taken⟩ := assembleStage_eq_ok assembled
  have formed := Transaction.wellFormed_ofValue listed
  split at taken
  · exact taken ▸ formed
  · exact Transaction.wellFormed_expand formed taken

/-- An artifact is expanded, unless its file is taken as it is: then it is the document there
without the comments. -/
theorem expanded_or_verbatim (assembled : assembleStage files root stage = .ok artifact) :
    (∀ operation ∈ artifact.operations, operation.isExpanded = true) ∨
      ∃ document, files.isFile (verbatimFile root stage) = true ∧
        readDocument files (verbatimFile root stage) = .ok document ∧
        artifact.toValue = stripComments document := by
  obtain ⟨document,templates,read,listed,taken⟩ := assembleStage_eq_ok assembled
  by_cases verbatim : files.isFile (verbatimFile root stage) = true
  · rw [if_pos verbatim] at taken
    rw [source,if_pos verbatim] at read
    obtain ⟨text,-,parsed⟩ := readDocument_eq_ok.mp read
    refine .inr ⟨document,verbatim,read,?_⟩
    rw [toValue,taken]
    exact Transaction.toValue_ofValue (parse_readable parsed).ordered listed
  · rw [if_neg verbatim] at taken
    exact .inl (Transaction.isExpanded_expand taken)

/-- The document of a stage has no numbers but integers. -/
def HasIntegers (files : Files) (root : Path) (stage : String) : Prop :=
  ∀ document, readDocument files (source files root stage) = .ok document →
    ∀ n ∈ numbers document, n.IsInteger

theorem readable_assembleStage (integers : HasIntegers files root stage)
    (assembled : assembleStage files root stage = .ok artifact) :
    ∀ operation ∈ artifact.operations,
      Readable (fun n => n.IsInteger ∧ n.Fits) 126 operation.toValue := by
  obtain ⟨document,templates,read,listed,taken⟩ := assembleStage_eq_ok assembled
  obtain ⟨text,-,parsed⟩ := readDocument_eq_ok.mp read
  obtain ⟨ordered,shallow,fits⟩ := parse_readable parsed
  have readable : Readable (fun n => n.IsInteger ∧ n.Fits) (125 + 2) document :=
    ⟨ordered,shallow,fun n member => ⟨integers document read n member,fits n member⟩⟩
  have formed := Transaction.wellFormed_ofValue listed
  have each := Transaction.readable_ofValue readable listed
  split at taken
  · exact taken ▸ each
  · exact Transaction.readable_expand formed each taken

theorem mem_flatten (assembled : assemble files root stages = .ok artifacts) {operation : Operation}
    (member : operation ∈ flatten artifacts) :
    ∃ stage ∈ stages, ∃ artifact, assembleStage files root stage = .ok artifact ∧
      operation ∈ artifact.operations := by
  obtain ⟨artifact,among,inside⟩ := List.mem_flatMap.mp member
  obtain ⟨stage,listed,given⟩ := Except.exists_of_mem_mapM assembled among
  exact ⟨stage,listed,artifact,given,inside⟩

theorem wellFormed_flatten (assembled : assemble files root stages = .ok artifacts) :
    Transaction.WellFormed (flatten artifacts) := by
  intro operation member
  obtain ⟨stage,-,artifact,given,inside⟩ := mem_flatten assembled member
  exact wellFormed_assembleStage given operation inside

theorem readable_document (assembled : assemble files root stages = .ok artifacts)
    (integers : ∀ stage ∈ stages, HasIntegers files root stage) :
    Readable (fun n => n.IsInteger ∧ n.Fits) 127 (document artifacts) := by
  refine readable_list.mpr fun value member => ?_
  obtain ⟨operation,among,rfl⟩ := List.mem_map.mp member
  obtain ⟨stage,listed,artifact,given,inside⟩ := mem_flatten assembled among
  exact readable_assembleStage (integers stage listed) given operation inside

/-- A file that is taken as it is, is the whole of its stage. -/
theorem assemble_verbatim {text : String} {document : Value} {operations : Transaction}
    (file : files.isFile (verbatimFile root stage) = true)
    (given : files.read (verbatimFile root stage) = .ok text)
    (parsed : parse text = some document) (listed : Transaction.ofValue document = .ok operations) :
    assemble files root [stage] = .ok [⟨stage,operations⟩] := by
  have read := readDocument_eq_ok.mpr ⟨text,given,parsed⟩
  have assembled : assembleStage files root stage = .ok ⟨stage,operations⟩ := by
    unfold assembleStage
    dsimp only
    rw [← verbatimFile,if_pos file,read]
    exact Except.bind_eq_ok.mpr ⟨document,rfl,Except.bind_eq_ok.mpr ⟨operations,listed,rfl⟩⟩
  rw [assemble,List.mapM_cons,assembled]
  rfl

/-- What is written of a build is read as its document, whose digest is the one that is printed; as
the file of a stage, in any tree, it assembles to one artifact with the operations of the build,
which is written in the same way and has the same digest. -/
theorem assemble_contents (assembled : assemble files root stages = .ok artifacts)
    (integers : ∀ stage ∈ stages, HasIntegers files root stage) :
    (∀ (tree after : Files) path events printed, ¬ tree.IsDevice path →
        Run.Trace (writeArtifact tree path artifacts).run events (.ok (after,printed)) →
        after.read path = .ok (contents artifacts) ∧ printed = digest artifacts) ∧
      (∃ parsed, parse (contents artifacts) = some parsed ∧
        parsed = Transaction.toValue (flatten artifacts) ∧
        digest artifacts = Sha256.hex parsed.canonicalText) ∧
      ∀ (tree : Files) (base : Path) (x : String),
        tree.isFile (base.join (x ++ ".json")) = true →
        tree.read (base.join (x ++ ".json")) = .ok (contents artifacts) →
        ∃ artifact, assemble tree base [x] = .ok [artifact] ∧
          artifact.operations = flatten artifacts ∧ render [artifact] = render artifacts ∧
          contents [artifact] = contents artifacts ∧ digest [artifact] = digest artifacts := by
  have parsed : parse (contents artifacts) = some (document artifacts) :=
    parse_pretty (readable_document assembled integers) (List.forall_mem_singleton.mpr rfl)
  refine ⟨fun tree after path events printed plain trace => trace_writeArtifact plain trace,
    ⟨_,parsed,rfl,rfl⟩,fun tree base x file given => ?_⟩
  have listed := Transaction.ofValue_toValue (wellFormed_flatten assembled)
  have again := assemble_verbatim file given parsed listed
  have same : document [⟨x,flatten artifacts⟩] = document artifacts := by simp [document,flatten]
  exact ⟨_,again,rfl,by rw [render,same,render],by rw [contents,render,same]; rfl,
    by rw [digest,same,digest]⟩

end

/-- A tree with a stage that is taken as it is, a template in it, and one that is expanded. -/
def twoForms : Files where
  entries := [
    (["base.json"],
      .text "[\x7b\"COMMENT\":1,\"code_from_query\":\x7b\"n\":-5\x7d,\"q\":[]\x7d]"),
    (["more"],.directory),
    (["more","main.json"],.text "[\x7b\"code_expand\":\"f.clj\",\"m\":\x7b\x7d\x7d]"),
    (["more","f.clj"],.text " (str \"a\\n\") ")]
  workingDirectory := []

def twoFormsArtifacts : List Artifact :=
  [⟨"base",[⟨[("q",.list [])],some (.ofQuery (.object [("n",.number (.integer (-5)))]) [])⟩]⟩,
    ⟨"more",[⟨[("m",.object [])],some (.verbatim "(str \"a\\n\")")⟩]⟩]

theorem twoForms_contents :
    assemble twoForms ⟨"."⟩ ["base","more"] = .ok twoFormsArtifacts ∧
      ∃ artifact,
        assemble (Files.empty.set ["again.json"] (.text (contents twoFormsArtifacts))) ⟨"."⟩
            ["again"] =
          .ok [artifact] ∧
        artifact.operations = flatten twoFormsArtifacts ∧
        digest [artifact] = digest twoFormsArtifacts := by
  have assembled : assemble twoForms ⟨"."⟩ ["base","more"] = .ok twoFormsArtifacts := rfl
  have integers (stage : String) (document : Value) (whole : ∀ n ∈ numbers document, n.IsInteger)
      (known : readDocument twoForms (source twoForms ⟨"."⟩ stage) = .ok document) :
      HasIntegers twoForms ⟨"."⟩ stage := by
    intro other read
    rw [known] at read
    exact Except.ok.inj read ▸ whole
  obtain ⟨-,-,again⟩ := assemble_contents assembled fun stage listed => by
    simp only [List.mem_cons,List.not_mem_nil,or_false] at listed
    rcases listed with rfl | rfl
    · refine integers "base" (.list [.object [("COMMENT",.number (.integer 1)),
        ("code_from_query",.object [("n",.number (.integer (-5)))]),("q",.list [])]]) ?_ rfl
      simp [numbers,itemNumbers,memberNumbers,Number.IsInteger]
    · refine integers "more"
        (.list [.object [("code_expand",.string "f.clj"),("m",.object [])]]) ?_ rfl
      simp [numbers,itemNumbers,memberNumbers]
  obtain ⟨artifact,placed,same,-,-,digests⟩ :=
    again (Files.empty.set ["again.json"] (.text (contents twoFormsArtifacts))) ⟨"."⟩ "again" rfl rfl
  exact ⟨assembled,artifact,placed,same,digests⟩

end Artifact

end LedgerRehearsal
