import LedgerRehearsal.Artifact
import LedgerRehearsal.Proofs.Failure.Wording
import LedgerRehearsal.Proofs.Raising
import LedgerRehearsal.Scenario.Plan
import LedgerRehearsal.Settings

/-! What reading a source tree raises. Whatever stands in the files, the parts of a message that the
program words itself are on one line: the reasons for which files and operations are refused are
fixed words, and a query is quoted in its compact text. -/
namespace LedgerRehearsal

open Json

theorem FileError.oneLine_reason (error : FileError) : OneLine error.reason := by
  cases error <;> decide

@[simp] theorem newline_not_mem_kind (value : Value) : '\n' ∉ (kind value).toList := by
  cases value <;> simp [kind]

namespace Path

variable {dir : Path} {name : String}

theorem oneLine_name_of_join (whole : OneLine (dir.join name).text) : OneLine name := by
  unfold join at whole
  split at whole
  · exact whole
  · split at whole <;> simp_all

theorem oneLine_dir_of_join (relative : name.toList.head? ≠ some '/')
    (whole : OneLine (dir.join name).text) : OneLine dir.text := by
  unfold join at whole
  rw [if_neg relative] at whole
  split at whole <;> simp_all

end Path

theorem Template.compile_worded (query : Value) (params : List Value) :
    Raises TemplateError.Worded (compile query params) := by
  unfold compile
  dsimp only
  split
  · exact .ok _
  · exact .error (.countMismatch _ _ (oneLine_canonicalText query))

theorem templateParams_worded (fields : Members) :
    Raises TemplateError.Worded (templateParams fields) := by
  unfold templateParams
  split
  · exact .ok _
  · exact .ok _
  · exact .error (.invalidOperation (by simp [OneLine,paramsKey]))

theorem Code.ofMembers?_worded (members : Members) :
    Raises TemplateError.Worded (Code.ofMembers? members) := by
  unfold Code.ofMembers?
  split
  · exact .ok _
  · exact .ok _
  · exact .error (.invalidOperation (by simp [OneLine,codeKey]))
  · exact .map _ (templateParams_worded members)
  · exact .error (.invalidOperation (by simp [OneLine,fileKey]))
  · exact .map _ (templateParams_worded members)
  · exact .error (.invalidOperation (by simp [OneLine,codeKey,fileKey,queryKey]))

theorem Operation.ofValue_worded (value : Value) :
    Raises TemplateError.Worded (Operation.ofValue value) := by
  unfold Operation.ofValue
  split
  · exact .map _ (Code.ofMembers?_worded _)
  · exact .error (.invalidOperation (by simp [OneLine]))

theorem Transaction.ofValue_worded (value : Value) :
    Raises TemplateError.Worded (Transaction.ofValue value) := by
  unfold Transaction.ofValue
  split
  · exact .mapM Operation.ofValue_worded _
  · exact .error (.invalidOperation (by simp [OneLine]))

theorem checkName_worded (field name : String) :
    Raises SettingsError.Worded (checkName field name) := by
  unfold checkName
  split
  · exact .ok _
  · exact .error (.invalidValue _ _)

section

variable [Diagnostics]

theorem resolveFile_worded (files : Files) (dir : Path) (file : String) (params : List Value) :
    Raises TemplateError.Worded (resolveFile files dir file params) := by
  unfold resolveFile
  dsimp only
  split
  · rename_i error _
    exact .error (.resolution fun _ => error.oneLine_reason)
  · split
    · exact .ok _
    · split
      · exact .error (.resolution fun _ => oneLine_append.mpr ⟨by decide,Diagnostics.json_oneLine _⟩)
      · rename_i query _
        split
        · exact .ok _
        · rename_i error failed
          exact .error (.inFile _ (Template.compile_worded query params error failed))

theorem Transaction.expand_worded (files : Files) (dir : Path) (transaction : Transaction) :
    Raises TemplateError.Worded (transaction.expand files dir) := by
  refine .mapM (fun operation => ?_) transaction
  unfold Operation.expand
  split
  · exact .ok _
  · rename_i code _
    refine .map _ ?_
    cases code with
    | verbatim code => exact .ok _
    | ofFile file params => exact .map _ (resolveFile_worded files dir file params)
    | ofQuery query params => exact .map _ (Template.compile_worded query params)

namespace Artifact

theorem readDocument_worded (files : Files) (path : Path) :
    Raises TemplateError.Worded (readDocument files path) := by
  unfold readDocument
  split
  · rename_i error _
    exact .error (.resolution fun _ => error.oneLine_reason)
  · split
    · exact .ok _
    · exact .error (.resolution fun _ => oneLine_append.mpr ⟨by decide,Diagnostics.json_oneLine _⟩)

theorem assembleStage_worded (files : Files) (root : Path) (stage : String) :
    Raises TemplateError.Worded (assembleStage files root stage) := by
  unfold assembleStage
  dsimp only
  split
  · exact .bind (readDocument_worded files _) fun document =>
      .bind (Transaction.ofValue_worded document) fun _ => .ok _
  · split
    · exact .bind (readDocument_worded files _) fun document =>
        .bind (Transaction.ofValue_worded document) fun templates =>
        .bind (Transaction.expand_worded files _ templates) fun _ => .ok _
    · refine .error (.resolution fun whole => ?_)
      have named : OneLine stage :=
        Path.oneLine_name_of_join (Path.oneLine_dir_of_join (by decide) whole)
      simp only [OneLine] at named
      simp [OneLine,named,mainFile]

end Artifact

theorem readJson_worded (files : Files) (path : Path) :
    Raises SettingsError.Worded (readJson files path) := by
  unfold readJson
  split
  · rename_i error _
    exact .error (.unreadable path error.oneLine_reason)
  · split
    · exact .ok _
    · exact .error (.malformed path _)

theorem readOptionalJson_worded (files : Files) (path : Path) :
    Raises SettingsError.Worded (readOptionalJson files path) := by
  unfold readOptionalJson
  split
  · exact .map _ (readJson_worded files path)
  · exact .ok _

theorem BuildManifest.load_worded (files : Files) (root : Path) :
    Raises SettingsError.Worded (BuildManifest.load files root) := by
  refine .bind (readJson_worded files _) fun value => ?_
  dsimp only
  split
  · exact .error (.malformed _ _)
  · exact .bind (.forM (fun target => .forM (checkName_worded _) _) _) fun _ => .ok _

theorem loadScenarioNames_worded (files : Files) (dir : Path) :
    Raises SettingsError.Worded (loadScenarioNames files dir) := by
  refine .bind (readOptionalJson_worded files _) fun value => ?_
  split
  · exact .ok _
  · split
    · exact .error (.malformed _ _)
    · exact .bind (.forM (checkName_worded _) _) fun _ => .ok _

end

namespace Settings

theorem refuse_worded {condition : Prop} [Decidable condition] {field reason : String} :
    Raises SettingsError.Worded (refuse condition field reason) := by
  unfold refuse
  split
  · exact .error (.invalidValue _ _)
  · exact .ok _

theorem check_worded (settings : Settings) : Raises SettingsError.Worded settings.check :=
  .bind refuse_worded fun _ => .bind refuse_worded fun _ => .bind refuse_worded fun _ =>
    .bind refuse_worded fun _ => .bind refuse_worded fun _ => .bind refuse_worded fun _ =>
    .bind refuse_worded fun _ => refuse_worded

variable [Diagnostics]

theorem read_worded (files : Files) (path : Path) :
    Raises SettingsError.Worded (read files path) := by
  unfold read
  split
  · rename_i error _
    exact .error (.unreadable path error.oneLine_reason)
  · split
    · exact .ok _
    · exact .error (.malformed path _)

theorem load_worded (files : Files) (explicit environment : Option Path) :
    Raises SettingsError.Worded (load files explicit environment) := by
  unfold load
  split
  · exact .error .missingPath
  · exact .bind (read_worded files _) fun settings =>
      .bind settings.check_worded fun _ => .ok _

end Settings

namespace Scenario

theorem settings_worded {α : Type} {result : Except SettingsError α}
    (worded : Raises SettingsError.Worded result) :
    Raises Failure.Worded (result.mapError .settings) :=
  .mapError fun error failed => .settings (worded error failed)

theorem template_worded {α : Type} {result : Except TemplateError α}
    (worded : Raises TemplateError.Worded result) :
    Raises Failure.Worded (result.mapError .template) :=
  .mapError fun error failed => .template (worded error failed)

theorem scenario_worded {α : Type} (result : Except ScenarioError α) :
    Raises Failure.Worded (result.mapError .scenario) :=
  .mapError fun error _ => .scenario error

variable [Diagnostics] (files : Files) (dir : Path) (phase : Phase)

theorem phaseEntries_worded : Raises SettingsError.Worded (phaseEntries files dir phase) := by
  refine .bind (readOptionalJson_worded files _) fun value => ?_
  split
  · exact .ok _
  · exact .ok _
  · exact .error (.malformed _ _)

theorem loadEntry_worded (entry : Value) :
    Raises TemplateError.Worded (loadEntry files dir entry) := by
  refine .bind ?_ fun transaction => Transaction.expand_worded files dir transaction
  unfold entryTransaction
  split
  · exact Transaction.ofValue_worded _
  · exact .map _ (Operation.ofValue_worded _)

theorem roles_worded : Raises Failure.Worded (RoleSets.load files dir) := by
  refine .bind (settings_worded (readJson_worded files _)) fun value => ?_
  unfold RoleSets.ofValue
  split
  · exact .error (.settings (.malformed _ _))
  · exact scenario_worded _

theorem loadQueries_worded : Raises Failure.Worded (loadQueries files dir phase) :=
  .bind (settings_worded (phaseEntries_worded files dir phase)) fun _ => .ok _

theorem loadTransactions_worded : Raises Failure.Worded (loadTransactions files dir phase) :=
  .bind (settings_worded (phaseEntries_worded files dir phase)) fun _ =>
    template_worded (.mapM (loadEntry_worded files dir) _)

theorem loadPrivileged_worded : Raises Failure.Worded (loadPrivileged files dir phase) := by
  refine .bind (settings_worded (phaseEntries_worded files dir phase)) fun entries => ?_
  split
  · exact .ok _
  · exact template_worded (.map _ (loadEntry_worded files dir _))

theorem load_worded (name : String) : Raises Failure.Worded (load files dir name) := by
  refine .bind ?_ fun plan => .bind (scenario_worded _) fun _ => .ok _
  exact .bind (roles_worded files _) fun _ => .bind (loadPrivileged_worded files _ _) fun _ =>
    .bind (loadQueries_worded files _ _) fun _ => .bind (loadQueries_worded files _ _) fun _ =>
    .bind (loadTransactions_worded files _ _) fun _ =>
    .bind (loadTransactions_worded files _ _) fun _ =>
    .bind (loadPrivileged_worded files _ _) fun _ => .ok _

end Scenario

end LedgerRehearsal
