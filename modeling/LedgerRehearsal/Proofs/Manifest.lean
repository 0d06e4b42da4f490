import LedgerRehearsal.Artifact
import LedgerRehearsal.Phase
import LedgerRehearsal.Proofs.Files.Below
import LedgerRehearsal.Proofs.InTurn
import LedgerRehearsal.Proofs.Json.Ordered
import LedgerRehearsal.Proofs.Json.Reading
import LedgerRehearsal.Proofs.Json.Shape
import LedgerRehearsal.Proofs.Text.ByteOrder
import LedgerRehearsal.Roles

/-! Manifests and the paths that are made of them. A manifest with a text that is no single name is
refused for the first such text, so the paths to the files of a stage stay below the root. -/
namespace LedgerRehearsal

open Json LedgerRehearsal.Path

variable {files : Files} {root dir : Path} {field name stage scenario : String}
variable {names : List String} {targets : List (String × List String)} {error : SettingsError}

/-- A text that names no entry of a directory, or could be taken for a way through several. -/
def BadName (name : String) : Prop :=
  name = "" ∨ name = "." ∨ name = ".." ∨ '/' ∈ name.toList ∨ '\\' ∈ name.toList

instance : DecidablePred BadName := fun _ => inferInstanceAs (Decidable (_ ∨ _))

theorem isDirectoryName_iff : isDirectoryName name = true ↔ ¬ BadName name := by
  simp only [isDirectoryName,BadName,Bool.and_eq_true,decide_eq_true_eq,Bool.not_eq_true',
    List.contains_eq_mem,decide_eq_false_iff_not,not_or,and_assoc,ne_eq]

theorem isName_of_not_bad (good : ¬ BadName name) : IsName name :=
  isName_of_valid (isDirectoryName_iff.mpr good)

/-- The first bad one of some names. -/
def FirstBad (names : List String) (name : String) : Prop :=
  ∃ before after, names = before ++ name :: after ∧ (∀ earlier ∈ before, ¬ BadName earlier) ∧
    BadName name

/-- The refusal of a name. -/
def refusal? (field name : String) : Option SettingsError :=
  if isDirectoryName name then none
  else some (.invalidValue field s!"'{name}' is not a valid directory name")

theorem errorOf?_checkName : errorOf? (checkName field name) = refusal? field name := by
  unfold checkName refusal?
  split <;> rfl

theorem refusal?_eq_none : refusal? field name = none ↔ ¬ BadName name := by
  rw [← isDirectoryName_iff,refusal?]
  split <;> simp [*]

theorem refusal?_eq_some : refusal? field name = some error ↔
    BadName name ∧ error = .invalidValue field s!"'{name}' is not a valid directory name" := by
  rw [← not_not (a := BadName name),← isDirectoryName_iff,refusal?]
  split <;> simp [*,eq_comm]

theorem findSome?_refusal?_eq_none :
    names.findSome? (refusal? field) = none ↔ ∀ name ∈ names, ¬ BadName name := by
  simp only [List.findSome?_eq_none_iff,refusal?_eq_none]

theorem findSome?_refusal?_eq_some : names.findSome? (refusal? field) = some error ↔
    ∃ name, FirstBad names name ∧
      error = .invalidValue field s!"'{name}' is not a valid directory name" := by
  simp only [List.findSome?_eq_some_iff,refusal?_eq_none,refusal?_eq_some,FirstBad]
  constructor
  · rintro ⟨before,name,after,split,⟨bad,rfl⟩,good⟩
    exact ⟨name,⟨before,after,split,good,bad⟩,rfl⟩
  · rintro ⟨name,⟨before,after,split,good,bad⟩,rfl⟩
    exact ⟨before,name,after,split,⟨bad,rfl⟩,good⟩

theorem errorOf?_checkNames :
    errorOf? (names.forM (checkName field)) = names.findSome? (refusal? field) := by
  rw [errorOf?_forM]
  simp only [errorOf?_checkName]

namespace BuildManifest

variable {manifest : BuildManifest}

/-- The first bad stage, where targets come in the order of the bytes of their names. -/
structure FirstBadStage (targets : List (String × List String)) (target stage : String) : Prop where
  listed : ∃ stages, (target,stages) ∈ targets ∧ FirstBad stages stage
  earlier : ∀ other ∈ targets, Text.bytes other.1 < Text.bytes target →
    ∀ stage ∈ other.2, ¬ BadName stage

theorem errorOf?_check : errorOf? manifest.check = manifest.targets.findSome? fun target =>
    target.2.findSome? (refusal? s!"build target '{target.1}'") := by
  rw [check,errorOf?_forM]
  simp only [errorOf?_checkNames]

theorem check_eq_ok :
    manifest.check = .ok () ↔ ∀ target ∈ manifest.targets, ∀ stage ∈ target.2, ¬ BadName stage := by
  have passed : errorOf? manifest.check = none ↔
      ∀ target ∈ manifest.targets, ∀ stage ∈ target.2, ¬ BadName stage := by
    simp only [errorOf?_check,List.findSome?_eq_none_iff,refusal?_eq_none]
  rw [← passed]
  cases manifest.check <;> simp

/-- The first target in the list that is refused has the smallest name of those. -/
theorem check_eq_error (ordered : (manifest.targets.map Prod.fst).Pairwise (· < ·)) :
    manifest.check = .error error ↔ ∃ target stage, FirstBadStage manifest.targets target stage ∧
      error = .invalidValue s!"build target '{target}'"
        s!"'{stage}' is not a valid directory name" := by
  rw [← errorOf?_eq_some,errorOf?_check,List.findSome?_eq_some_iff]
  constructor
  · rintro ⟨before,⟨target,stages⟩,after,split,refused,passed⟩
    obtain ⟨stage,first,rfl⟩ := findSome?_refusal?_eq_some.mp refused
    refine ⟨target,stage,⟨⟨stages,by simp [split],first⟩,fun other among less => ?_⟩,rfl⟩
    have smaller := Text.lt_iff_bytes_lt.mpr less
    rw [split,List.map_append,List.map_cons,List.pairwise_append,List.pairwise_cons] at ordered
    rw [split,List.mem_append,List.mem_cons] at among
    rcases among with early | rfl | late
    · exact findSome?_refusal?_eq_none.mp (passed other early)
    · exact absurd smaller (String.lt_irrefl _)
    · exact absurd smaller (String.lt_asymm (ordered.2.1.1 _ (List.mem_map_of_mem late)))
  · rintro ⟨target,stage,⟨⟨stages,among,first⟩,earlier⟩,rfl⟩
    obtain ⟨before,after,split⟩ := List.append_of_mem among
    refine ⟨before,_,after,split,findSome?_refusal?_eq_some.mpr ⟨stage,first,rfl⟩,?_⟩
    intro other early
    rw [split,List.map_append,List.map_cons,List.pairwise_append] at ordered
    have smaller := ordered.2.2 _ (List.mem_map_of_mem early) target List.mem_cons_self
    have member : other ∈ manifest.targets := by
      rw [split]
      exact List.mem_append_left _ early
    exact findSome?_refusal?_eq_none.mpr (earlier other member (Text.lt_iff_bytes_lt.mp smaller))

/-- The document that lists targets. -/
def document (targets : List (String × List String)) : Value :=
  .object (targets.map fun target => (target.1,.ofStrings target.2))

variable [Diagnostics]

theorem load_document (read : readJson files (root.join buildFile) = .ok (document targets)) :
    load files root = (check ⟨targets⟩).map fun _ => ⟨targets⟩ := by
  have listed := Shape.map_strings_eq_ok.mpr (rfl : document targets = document targets)
  rw [load,read]
  simp only [bind,Except.bind,listed]
  cases check ⟨targets⟩ <;> rfl

theorem check_of_load (loaded : load files root = .ok manifest) : manifest.check = .ok () := by
  obtain ⟨value,-,loaded⟩ := Except.bind_eq_ok.mp loaded
  split at loaded
  · contradiction
  · obtain ⟨⟨⟩,checked,same⟩ := Except.bind_eq_ok.mp loaded
    cases same
    exact checked

theorem ordered_of_document (read : readJson files (root.join buildFile) = .ok (document targets)) :
    (targets.map Prod.fst).Pairwise (· < ·) := by
  obtain ⟨text,-,parsed⟩ := readJson_eq_ok.mp read
  have ascending := (parse_readable parsed).ordered.1
  rw [Members.Ascending,Members.keys,List.map_map] at ascending
  exact ascending

end BuildManifest

/-- The document that lists scenarios is the list of their names. -/
theorem loadScenarioNames_document [Diagnostics]
    (read : readOptionalJson files (dir.join scenarioFile) = .ok (some (.ofStrings names))) :
    loadScenarioNames files dir = (names.forM (checkName "scenario")).map fun _ => names := by
  have listed := Shape.list_string_eq_ok.mpr (rfl : Value.ofStrings names = .ofStrings names)
  rw [loadScenarioNames,read]
  simp only [bind,Except.bind,listed]
  cases names.forM (checkName "scenario") <;> rfl

theorem good_of_loadScenarioNames [Diagnostics] (loaded : loadScenarioNames files dir = .ok names) :
    ∀ name ∈ names, ¬ BadName name := by
  obtain ⟨value?,-,loaded⟩ := Except.bind_eq_ok.mp loaded
  split at loaded
  · cases loaded
    exact nofun
  · split at loaded
    · contradiction
    · obtain ⟨⟨⟩,checked,same⟩ := Except.bind_eq_ok.mp loaded
      cases same
      rw [← findSome?_refusal?_eq_none,← errorOf?_checkNames,checked]
      rfl

/-- The files of a stage. -/
structure StageBelow (root : Path) (stage : String) : Prop where
  verbatim : Below root [stage ++ ".json"] (root.join (stage ++ ".json"))
  main : Below root [stage,mainFile] ((root.join stage).join mainFile)
  scenarios : Below root [stage,scenarioFile] ((stageDir root stage).join scenarioFile)

/-- The files of a scenario. -/
structure ScenarioBelow (root : Path) (stage scenario : String) : Prop where
  roles : Below root [stage,scenario,roleFile] (((stageDir root stage).join scenario).join roleFile)
  phases : ∀ phase : Phase, Below root [stage,scenario,phase.file]
    (((stageDir root stage).join scenario).join phase.file)

theorem isName_mainFile : IsName mainFile := isName_of_valid (by decide)

theorem isName_scenarioFile : IsName scenarioFile := isName_of_valid (by decide)

theorem isName_roleFile : IsName roleFile := isName_of_valid (by decide)

theorem isName_file (phase : Phase) : IsName phase.file :=
  isName_of_valid (by cases phase <;> decide)

theorem stageBelow (good : ¬ BadName stage) : StageBelow root stage := by
  have named := isName_of_not_bad good
  have within {file : String} (known : IsName file) : ∀ name ∈ [stage,file], IsName name := by
    simp [named,known]
  exact ⟨below_join (isName_json named.single),below_foldl_join (within isName_mainFile) nofun,
    below_foldl_join (within isName_scenarioFile) nofun⟩

theorem scenarioBelow (good : ¬ BadName stage) (good' : ¬ BadName scenario) :
    ScenarioBelow root stage scenario := by
  have within {file : String} (known : IsName file) :
      ∀ name ∈ [stage,scenario,file], IsName name := by
    simp [isName_of_not_bad good,isName_of_not_bad good',known]
  exact ⟨below_foldl_join (within isName_roleFile) nofun,fun phase =>
    below_foldl_join (within (isName_file phase)) nofun⟩

/-- The stages and scenarios of accepted manifests have their files below the root. A manifest of the
right form is accepted exactly when it has no bad name; otherwise it is refused for the first one,
targets in the order of the bytes of their names and names as they are listed. -/
theorem manifests_confined [Diagnostics] (files : Files) (root : Path) :
    (∀ manifest, BuildManifest.load files root = .ok manifest →
      ∀ target ∈ manifest.targets, ∀ stage ∈ target.2, StageBelow root stage ∧
        ∀ tree dir scenarios, loadScenarioNames tree dir = .ok scenarios →
          ∀ scenario ∈ scenarios, ScenarioBelow root stage scenario) ∧
    (∀ targets,
      readJson files (root.join buildFile) = .ok (BuildManifest.document targets) →
      (BuildManifest.load files root = .ok ⟨targets⟩ ↔
        ∀ target ∈ targets, ∀ stage ∈ target.2, ¬ BadName stage) ∧
      ∀ error, BuildManifest.load files root = .error error ↔
        ∃ target stage, BuildManifest.FirstBadStage targets target stage ∧
          error = .invalidValue s!"build target '{target}'"
            s!"'{stage}' is not a valid directory name") ∧
    ∀ dir names, readOptionalJson files (dir.join scenarioFile) = .ok (some (.ofStrings names)) →
      (loadScenarioNames files dir = .ok names ↔ ∀ name ∈ names, ¬ BadName name) ∧
      ∀ error, loadScenarioNames files dir = .error error ↔ ∃ name, FirstBad names name ∧
        error = .invalidValue "scenario" s!"'{name}' is not a valid directory name" := by
  refine ⟨fun manifest loaded target among stage listed => ?_,fun targets read => ?_,
    fun dir names read => ?_⟩
  · have good := BuildManifest.check_eq_ok.mp (BuildManifest.check_of_load loaded) target among
      stage listed
    exact ⟨stageBelow good,fun tree dir scenarios loaded scenario member =>
      scenarioBelow good (good_of_loadScenarioNames loaded scenario member)⟩
  · rw [BuildManifest.load_document read]
    refine ⟨?_,fun error => ?_⟩
    · rw [← BuildManifest.check_eq_ok,Except.map_eq_ok]
      cases BuildManifest.check ⟨targets⟩ <;> simp
    · rw [Except.map_eq_error,
        BuildManifest.check_eq_error (BuildManifest.ordered_of_document read)]
  · rw [loadScenarioNames_document read]
    refine ⟨?_,fun error => ?_⟩
    · rw [← findSome?_refusal?_eq_none,← errorOf?_checkNames,Except.map_eq_ok]
      cases names.forM (checkName "scenario") <;> simp
    · rw [Except.map_eq_error,← findSome?_refusal?_eq_some,← errorOf?_checkNames,errorOf?_eq_some]

/-- A tree with a root whose manifests are accepted, and one whose manifests are not. -/
def twoRoots : Files where
  entries := [
    (["p"],.directory),
    (["p","build.json"],.text "\x7b\"full\":[\"base\",\"...\"]\x7d"),
    (["p","base"],.directory),
    (["p","base","test.json"],.text "[\"owner\"]"),
    (["q"],.directory),
    (["q","build.json"],.text
      "\x7b\"b\":[\"..\"],\"a\":[\"base\",\"p/base\",\"\"],\"c\":[]\x7d"),
    (["q","test.json"],.text "[\"owner\",\".\"]")]
  workingDirectory := ["p"]

def refusedTargets : List (String × List String) :=
  [("a",["base","p/base",""]),("b",[".."]),("c",[])]

theorem twoRoots_confined :
    (∃ manifest, BuildManifest.load twoRoots ⟨"/p"⟩ = .ok manifest ∧
      ("full",["base","..."]) ∈ manifest.targets ∧ StageBelow ⟨"/p"⟩ "..." ∧
      loadScenarioNames twoRoots ⟨"/p/base"⟩ = .ok ["owner"] ∧ ScenarioBelow ⟨"/p"⟩ "base" "owner") ∧
    readJson twoRoots ((Path.mk "/q").join buildFile) = .ok (BuildManifest.document refusedTargets) ∧
    BuildManifest.load twoRoots ⟨"/q"⟩ =
      .error (.invalidValue "build target 'a'" "'p/base' is not a valid directory name") ∧
    readOptionalJson twoRoots ((Path.mk "/q").join scenarioFile) =
      .ok (some (.ofStrings ["owner","."])) ∧
    loadScenarioNames twoRoots ⟨"/q"⟩ =
      .error (.invalidValue "scenario" "'.' is not a valid directory name") := by
  have loaded : BuildManifest.load twoRoots ⟨"/p"⟩ = .ok ⟨[("full",["base","..."])]⟩ := by
    decide +kernel
  have named : loadScenarioNames twoRoots ⟨"/p/base"⟩ = .ok ["owner"] := by decide +kernel
  have read : readJson twoRoots ((Path.mk "/q").join buildFile) =
      .ok (BuildManifest.document refusedTargets) := by decide +kernel
  have read' : readOptionalJson twoRoots ((Path.mk "/q").join scenarioFile) =
      .ok (some (.ofStrings ["owner","."])) := by decide +kernel
  obtain ⟨below,-,-⟩ := manifests_confined twoRoots ⟨"/p"⟩
  obtain ⟨-,stages,scenarios⟩ := manifests_confined twoRoots ⟨"/q"⟩
  have accepted := below _ loaded _ List.mem_cons_self
  have dots := (accepted "..." (by decide)).1
  have owner := (accepted "base" (by decide)).2 _ _ _ named "owner" (by decide)
  have first : BuildManifest.FirstBadStage refusedTargets "a" "p/base" := by
    refine ⟨⟨_,List.mem_cons_self,["base"],[""],rfl,?_,?_⟩,?_⟩ <;> decide +kernel
  have first' : FirstBad ["owner","."] "." := ⟨["owner"],[],rfl,by decide,by decide⟩
  exact ⟨⟨_,loaded,List.mem_cons_self,dots,named,owner⟩,read,
    ((stages _ read).2 _).mpr ⟨_,_,first,rfl⟩,read',((scenarios _ _ read').2 _).mpr ⟨_,first',rfl⟩⟩

end LedgerRehearsal
