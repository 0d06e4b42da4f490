import LedgerRehearsal.Proofs.Files.Path
import LedgerRehearsal.Proofs.Operation
import LedgerRehearsal.Proofs.Template.Interpolation
import LedgerRehearsal.Proofs.Text.Blank

/-! Expansion, of one operation and of all in turn. It is over once it has succeeded: what it gives
has no template left, so it depends on no file and no directory any more. A template in a file
becomes what it would become in its place, except that every error says which file was tried. -/
namespace LedgerRehearsal

open Json

namespace Operation

variable [Diagnostics] {operation expanded : Operation} {files : Files} {dir : Path}

theorem expand_of_isExpanded (done : operation.isExpanded = true) (files : Files) (dir : Path) :
    operation.expand files dir = .ok operation := by
  obtain ⟨fields,code⟩ := operation
  cases code with
  | none => rfl
  | some source =>
    cases source with
    | verbatim code => rfl
    | ofFile | ofQuery => contradiction

/-- What an operation is expanded to. -/
structure Expands (files : Files) (dir : Path) (operation expanded : Operation) : Prop where
  given : operation.expand files dir = .ok expanded
  fields : expanded.fields = operation.fields
  kept : operation.isExpanded = true → expanded = operation
  done : expanded.isExpanded = true

theorem expands_of_expand (given : operation.expand files dir = .ok expanded) :
    Expands files dir operation expanded := by
  refine ⟨given,(expand_eq_ok given).1,fun done => ?_,isExpanded_expand given⟩
  rw [expand_of_isExpanded done] at given
  exact (Except.ok.inj given).symm

end Operation

namespace Transaction

section

variable [Diagnostics]

theorem expand_of_isExpanded {transaction : Transaction}
    (done : ∀ operation ∈ transaction, operation.isExpanded = true) (files : Files) (dir : Path) :
    transaction.expand files dir = .ok transaction := by
  refine Except.mapM_eq_ok.mpr (List.forall₂_same.mpr fun operation member => ?_)
  exact Operation.expand_of_isExpanded (done operation member) files dir

/-- A transaction that was read is expanded when each of its operations can be expanded, and
otherwise the first that cannot decides the error. The result has an operation for each, in the same
order and with the same fields, those without a template being unchanged; it is read as itself when
it is written, and expanded to itself in any directory of any tree. -/
theorem expand_settled {value : Value} {transaction : Transaction}
    (read : ofValue value = .ok transaction) (files : Files) (dir : Path) :
    ((∃ expanded, transaction.expand files dir = .ok expanded) ↔
        ∀ operation ∈ transaction, ∃ expanded, operation.expand files dir = .ok expanded) ∧
      (∀ expanded, transaction.expand files dir = .ok expanded →
        List.Forall₂ (Operation.Expands files dir) transaction expanded ∧
          ofValue (toValue expanded) = .ok expanded ∧
          ∀ others place, expand others place expanded = .ok expanded) ∧
      ∀ error, transaction.expand files dir = .error error ↔
        ∃ before operation after, transaction = before ++ operation :: after ∧
          (∀ earlier ∈ before, ∃ expanded, earlier.expand files dir = .ok expanded) ∧
          operation.expand files dir = .error error := by
  refine ⟨Except.exists_mapM_iff,fun expanded given => ⟨?_,?_,?_⟩,fun _ => Except.mapM_eq_error⟩
  · exact (Except.mapM_eq_ok.mp given).imp fun _ _ => Operation.expands_of_expand
  · exact ofValue_toValue (wellFormed_expand (wellFormed_ofValue read) given)
  · exact expand_of_isExpanded (isExpanded_expand given)

end

/-- A directory with some code and a query. -/
def templates : Files :=
  (Files.empty.put ["c","f.clj"] (.text " (g)\n")).put ["c","t.json"] (.text "[\"PARAM\"]")

/-- An entry without code, one with code, and all that can stand for code. -/
def forms : Value :=
  .list [
    .object [("_id",.string "x")],
    .object [("code",.string "(h)")],
    .object [("code_expand",.string "f.clj"),("params",.list [.null])],
    .object [("code_expand",.string "t.json"),("params",.list [.string "1"])],
    .object [("code_from_query",.string "PARAM"),("params",.list [.string "2"])]]

/-- What the entries are expanded to in the directory. -/
def formsExpanded : Transaction := [
  ⟨[("_id",.string "x")],none⟩,
  ⟨[],some (.verbatim "(h)")⟩,
  ⟨[("params",.list [.null])],some (.verbatim "(g)")⟩,
  ⟨[("params",.list [.string "1"])],some (.verbatim "(str \"[\\\"\" 1 \"\\\"]\")")⟩,
  ⟨[("params",.list [.string "2"])],some (.verbatim "(str \"\\\"\" 2 \"\\\"\")")⟩]

theorem forms_settled :
    ∃ transaction, ofValue forms = .ok transaction ∧
      transaction.expand templates ⟨"c"⟩ = .ok formsExpanded ∧
      List.Forall₂ (Operation.Expands templates ⟨"c"⟩) transaction formsExpanded ∧
      ofValue (toValue formsExpanded) = .ok formsExpanded ∧
      formsExpanded.expand .empty ⟨"/"⟩ = .ok formsExpanded ∧
      transaction.expand .empty ⟨"c"⟩ =
        .error (.resolution ⟨"c/f.clj"⟩ FileError.missing.reason) := by
  let before : Transaction := [⟨[("_id",.string "x")],none⟩,⟨[],some (.verbatim "(h)")⟩]
  let code : Operation := ⟨[("params",.list [.null])],some (.ofFile "f.clj" [.null])⟩
  let after : Transaction := [
    ⟨[("params",.list [.string "1"])],some (.ofFile "t.json" [.string "1"])⟩,
    ⟨[("params",.list [.string "2"])],some (.ofQuery (.string "PARAM") [.string "2"])⟩]
  have read : ofValue forms = .ok (before ++ code :: after) := by decide
  have given : expand templates ⟨"c"⟩ (before ++ code :: after) = .ok formsExpanded := by
    decide +kernel
  obtain ⟨-,whole,-⟩ := expand_settled read templates ⟨"c"⟩
  obtain ⟨each,again,still⟩ := whole formsExpanded given
  -- without the directory the first file that is missing stops the expansion
  have passed : ∀ earlier ∈ before, ∃ expanded, earlier.expand .empty ⟨"c"⟩ = .ok expanded := by
    simp only [before,List.forall_mem_cons,List.not_mem_nil,false_implies,implies_true,and_true]
    exact ⟨⟨_,rfl⟩,⟨_,rfl⟩⟩
  have missing : code.expand .empty ⟨"c"⟩ =
      .error (.resolution ⟨"c/f.clj"⟩ FileError.missing.reason) := by decide +kernel
  obtain ⟨-,-,failed⟩ := expand_settled read .empty ⟨"c"⟩
  refine ⟨_,read,given,each,again,still .empty ⟨"/"⟩,(failed _).mpr ?_⟩
  exact ⟨before,code,after,rfl,passed,missing⟩

end Transaction

section

variable [Diagnostics] {files : Files} {dir : Path} {file text : String} {query : Value}
  {error : FileError}

theorem resolveFile_unreadable (failed : files.read (dir.join file) = .error error)
    (params : List Value) :
    resolveFile files dir file params = .error (.resolution (dir.join file) error.reason) := by
  simp only [resolveFile,failed]

variable (given : files.read (dir.join file) = .ok text)

include given

theorem resolveFile_code (code : (dir.join file).HasExtension codeExtension)
    (params : List Value) : resolveFile files dir file params = .ok (Text.trimmed text) := by
  have named := Path.extension?_eq_some.mpr ⟨by decide,code⟩
  simp only [resolveFile,given,if_pos named]

variable (other : ¬ (dir.join file).HasExtension codeExtension)

include other

theorem resolveFile_malformed (malformed : parse text = none) (params : List Value) :
    resolveFile files dir file params =
      .error (.resolution (dir.join file) s!"malformed query document: {Diagnostics.json text}") := by
  have unnamed := mt Path.extension?_eq_some.mp fun named => other named.2
  simp only [resolveFile,given,if_neg unnamed,malformed]

theorem resolveFile_query (parsed : parse text = some query) (params : List Value) :
    resolveFile files dir file params =
      ((Template.compile query params).map Template.toCode).mapError (.inFile (dir.join file)) := by
  have unnamed := mt Path.extension?_eq_some.mp fun named => other named.2
  simp only [resolveFile,given,if_neg unnamed,parsed]
  cases Template.compile query params <;> rfl

end

namespace Operation

section

variable [Diagnostics] {files : Files} {dir : Path} {file text : String} {query : Value}
  {fields : Members} {params : List Value}

theorem expand_ofFile (files : Files) (dir : Path) (fields : Members) (file : String)
    (params : List Value) :
    expand files dir ⟨fields,some (.ofFile file params)⟩ =
      (resolveFile files dir file params).map fun code => ⟨fields,some (.verbatim code)⟩ := by
  simp only [expand,Code.expand]
  cases resolveFile files dir file params <;> rfl

theorem expand_ofQuery (files : Files) (dir : Path) (fields : Members) (query : Value)
    (params : List Value) :
    expand files dir ⟨fields,some (.ofQuery query params)⟩ =
      (Template.compile query params).map fun template =>
        ⟨fields,some (.verbatim template.toCode)⟩ := by
  simp only [expand,Code.expand]
  cases Template.compile query params <;> rfl

theorem expand_ofQuery_error {error : TemplateError}
    (failed : expand files dir ⟨fields,some (.ofQuery query params)⟩ = .error error) :
    ∃ slots, error = .countMismatch slots params.length query.canonicalText := by
  rw [expand_ofQuery] at failed
  obtain ⟨slots,-,-,rfl⟩ := Template.compile_eq_error.mp (Except.map_eq_error.mp failed)
  exact ⟨slots,rfl⟩

/-- What comes of a query in a file, beside what comes of it in its place: the same operation, or
an error that names the file and then says what is wrong with the number of the parameters. -/
structure InFile (path : Path) (query : Value) (params : List Value)
    (inline outcome : Except TemplateError Operation) : Prop where
  ok : ∀ expanded, outcome = .ok expanded ↔ inline = .ok expanded
  error : ∀ error, outcome = .error error ↔
    ∃ slots, inline = .error (.countMismatch slots params.length query.canonicalText) ∧
      error = .inFile path (.countMismatch slots params.length query.canonicalText)

theorem expand_query_file (given : files.read (dir.join file) = .ok text)
    (other : ¬ (dir.join file).HasExtension codeExtension) (parsed : parse text = some query)
    (fields : Members) (params : List Value) :
    InFile (dir.join file) query params (expand files dir ⟨fields,some (.ofQuery query params)⟩)
      (expand files dir ⟨fields,some (.ofFile file params)⟩) := by
  have same : expand files dir ⟨fields,some (.ofFile file params)⟩ =
      (expand files dir ⟨fields,some (.ofQuery query params)⟩).mapError
        (.inFile (dir.join file)) := by
    rw [expand_ofFile,resolveFile_query given other parsed,expand_ofQuery]
    cases Template.compile query params <;> rfl
  rw [same]
  refine ⟨fun _ => Except.mapError_eq_ok,fun error => Except.mapError_eq_error.trans ?_⟩
  constructor
  · rintro ⟨cause,failed,rfl⟩
    obtain ⟨slots,rfl⟩ := expand_ofQuery_error failed
    exact ⟨slots,failed,rfl⟩
  · rintro ⟨slots,failed,rfl⟩
    exact ⟨_,failed,rfl⟩

theorem expand_code_file (given : files.read (dir.join file) = .ok text)
    (code : (dir.join file).HasExtension codeExtension) (fields : Members) (params : List Value) :
    expand files dir ⟨fields,some (.ofFile file params)⟩ =
      .ok ⟨fields,some (.verbatim (Text.trimmed text))⟩ := by
  rw [expand_ofFile,resolveFile_code given code,Except.map]

/-- The template in a file does what it would do in its place, but an error names the file. A file
of code is its own code, without the blanks around it and whatever the parameters are. The other
errors name the file too: it cannot be read, or it holds neither code nor a query. -/
theorem expand_file_agrees (files : Files) (dir : Path) (fields : Members) (file : String)
    (params : List Value) :
    let path := dir.join file
    let outcome := expand files dir ⟨fields,some (.ofFile file params)⟩
    (∀ text query, files.read path = .ok text → ¬ path.HasExtension codeExtension →
        parse text = some query →
        InFile path query params (expand files dir ⟨fields,some (.ofQuery query params)⟩)
          outcome) ∧
      (∀ text, files.read path = .ok text → path.HasExtension codeExtension →
        ∃ code, Text.Trims text.toList code.toList ∧
          ∀ others, expand files dir ⟨fields,some (.ofFile file others)⟩ =
            .ok ⟨fields,some (.verbatim code)⟩) ∧
      (∀ error, files.read path = .error error →
        outcome = .error (.resolution path error.reason)) ∧
      (∀ text, files.read path = .ok text → ¬ path.HasExtension codeExtension →
        parse text = none →
        outcome = .error (.resolution path s!"malformed query document: {Diagnostics.json text}")) ∧
      ∀ error, outcome = .error error → (∃ reason, error = .resolution path reason) ∨
        ∃ slots given text, error = .inFile path (.countMismatch slots given text) := by
  intro path outcome
  have unreadable (error : FileError) (failed : files.read path = .error error) :
      outcome = .error (.resolution path error.reason) :=
    (expand_ofFile ..).trans (Except.map_eq_error.mpr (resolveFile_unreadable failed params))
  have malformed (text : String) (given : files.read path = .ok text)
      (other : ¬ path.HasExtension codeExtension) (malformed : parse text = none) :
      outcome = .error (.resolution path s!"malformed query document: {Diagnostics.json text}") :=
    (expand_ofFile ..).trans
      (Except.map_eq_error.mpr (resolveFile_malformed given other malformed params))
  refine ⟨fun text query given other parsed => expand_query_file given other parsed fields params,
    fun text given code => ⟨Text.trimmed text,?_,expand_code_file given code fields⟩,
    unreadable,malformed,fun error failed => ?_⟩
  · rw [Text.trimmed,String.toList_ofList]
    exact Text.trims_trim text.toList
  · cases given : files.read path with
    | error cause => exact .inl ⟨_,Except.error.inj (failed.symm.trans (unreadable cause given))⟩
    | ok text =>
      by_cases code : path.HasExtension codeExtension
      · have done := expand_code_file given code fields params
        exact absurd (failed.symm.trans done) nofun
      · cases parsed : parse text with
        | none =>
          exact .inl ⟨_,Except.error.inj (failed.symm.trans (malformed text given code parsed))⟩
        | some query =>
          have agrees := expand_query_file given code parsed fields params
          obtain ⟨slots,-,rfl⟩ := (agrees.error error).mp failed
          exact .inr ⟨slots,_,_,rfl⟩

end

-- a name that is only a dot and an extension has no extension, so its file holds a query
example : expand (Files.empty.put ["c",".clj"] (.text " [\"PARAM\"]\n")) ⟨"/c"⟩
    ⟨[],some (.ofFile ".clj" [])⟩ =
      .error (.inFile ⟨"/c/.clj"⟩ (.countMismatch 1 0 "[\"PARAM\"]")) := by decide +kernel

end Operation

end LedgerRehearsal
