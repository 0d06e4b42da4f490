import LedgerRehearsal.Proofs.Operation

/-! Which values are transactions, what they are read as, and what is wrong with the others. An
entry is an operation or has a flaw; of several flaws in a list the first counts. -/
namespace LedgerRehearsal

open Json

/-- The keys that are no fields of an operation. -/
def reservedKeys : List String := commentKey :: codeKeys

variable {members : Members} {fields : Members} {params : List Value} {error : TemplateError}

theorem plainFields_eq_filter (members : Members) :
    plainFields members = members.filter fun member => member.1 ∉ reservedKeys := by
  simp only [plainFields,Members.erase,List.filter_filter,reservedKeys,codeKeys]
  refine List.filter_congr fun member _ => ?_
  simp only [List.mem_cons,List.not_mem_nil,or_false,not_or,Bool.decide_and]
  ac_rfl

/-- The parameters that fields hold; there are none if nothing is said. -/
def HasParams (fields : Members) (params : List Value) : Prop :=
  Members.get? paramsKey fields = some (.list params) ∨
    Members.get? paramsKey fields = none ∧ params = []

theorem templateParams_eq_ok : templateParams fields = .ok params ↔ HasParams fields params := by
  unfold templateParams HasParams
  split
  · rename_i absent
    simp [absent,eq_comm]
  · rename_i found
    simp [found]
  · rename_i notList found
    rw [found]
    simpa using notList params

theorem templateParams_eq_error :
    templateParams fields = .error error ↔
      ∃ found, Members.get? paramsKey fields = some found ∧ (∀ params, found ≠ .list params) ∧
        error = .invalidOperation s!"'{paramsKey}' must be a list, got {kind found}" := by
  unfold templateParams
  split
  · rename_i absent
    simp [absent]
  · rename_i found
    simp [found]
  · rename_i given notList found
    rw [found]
    constructor
    · rintro ⟨⟩
      exact ⟨given,rfl,notList,rfl⟩
    · rintro ⟨_,⟨⟩,-,rfl⟩
      rfl

namespace Code

/-- An object that brings code in one way at most, and all that it brings is of the right kind. -/
structure Acceptable (members : Members) : Prop where
  single : ∀ key ∈ codeKeys, ∀ other ∈ codeKeys,
    key ∈ Members.keys members → other ∈ Members.keys members → key = other
  code : ∀ found, Members.get? codeKey members = some found → ∃ text, found = .string text
  file : ∀ found, Members.get? fileKey members = some found → ∃ text, found = .string text
  params : fileKey ∈ Members.keys members ∨ queryKey ∈ Members.keys members →
    ∀ found, Members.get? paramsKey members = some found → ∃ items, found = .list items

/-- What is wrong with an object, as it is reported. Two ways to bring code are wrong whatever they
bring, and parameters only where a template could use them. -/
inductive Flaw (members : Members) : String → Prop where
  | several {key other : String} : key ∈ codeKeys → other ∈ codeKeys → key ≠ other →
      key ∈ Members.keys members → other ∈ Members.keys members →
      Flaw members s!"only one of '{codeKey}', '{fileKey}' and '{queryKey}' may be present"
  | code {found : Value} : Members.get? codeKey members = some found → Alone codeKey members →
      (∀ text, found ≠ .string text) →
      Flaw members s!"'{codeKey}' must be a string, got {kind found}"
  | file {found : Value} : Members.get? fileKey members = some found → Alone fileKey members →
      (∀ text, found ≠ .string text) →
      Flaw members s!"'{fileKey}' must be a file name, got {kind found}"
  | fileParams {file : String} {found : Value} :
      Members.get? fileKey members = some (.string file) → Alone fileKey members →
      Members.get? paramsKey members = some found → (∀ items, found ≠ .list items) →
      Flaw members s!"'{paramsKey}' must be a list, got {kind found}"
  | queryParams {query found : Value} :
      Members.get? queryKey members = some query → Alone queryKey members →
      Members.get? paramsKey members = some found → (∀ items, found ≠ .list items) →
      Flaw members s!"'{paramsKey}' must be a list, got {kind found}"

/-- The code that the members of an object bring. -/
def Matches (members : Members) : Option Code → Prop
  | none => ∀ key ∈ codeKeys, key ∉ Members.keys members
  | some (.verbatim code) => Members.get? codeKey members = some (.string code)
  | some (.ofFile file params) =>
    Members.get? fileKey members = some (.string file) ∧ HasParams members params
  | some (.ofQuery query params) =>
    Members.get? queryKey members = some query ∧ HasParams members params

theorem eq_of_alone {key other : String} (alone : Alone key members) (among : other ∈ codeKeys)
    (present : other ∈ Members.keys members) : other = key := by
  by_contra different
  exact Members.get?_eq_none_iff.mp (alone other among different) present

theorem alone_of_single {key : String}
    (single : ∀ key ∈ codeKeys, ∀ other ∈ codeKeys,
      key ∈ Members.keys members → other ∈ Members.keys members → key = other)
    (among : key ∈ codeKeys) (present : key ∈ Members.keys members) : Alone key members := by
  intro other among' different
  refine Members.get?_eq_none_iff.mpr fun present' => different ?_
  exact single other among' key among present' present

theorem ofMembers?_several {key other : String} (among : key ∈ codeKeys)
    (among' : other ∈ codeKeys) (different : key ≠ other) (present : key ∈ Members.keys members)
    (present' : other ∈ Members.keys members) :
    ofMembers? members = .error (.invalidOperation
      s!"only one of '{codeKey}', '{fileKey}' and '{queryKey}' may be present") := by
  have never {sole : String} (alone : Alone sole members) : False :=
    different ((eq_of_alone alone among present).trans (eq_of_alone alone among' present').symm)
  unfold ofMembers?
  split
  · rename_i noFile noQuery
    exact (never (alone_codeKey.mpr ⟨noFile,noQuery⟩)).elim
  · rename_i noFile noQuery
    exact (never (alone_codeKey.mpr ⟨noFile,noQuery⟩)).elim
  · rename_i noFile noQuery
    exact (never (alone_codeKey.mpr ⟨noFile,noQuery⟩)).elim
  · rename_i noCode _ noQuery
    exact (never (alone_fileKey.mpr ⟨noCode,noQuery⟩)).elim
  · rename_i noCode _ noQuery
    exact (never (alone_fileKey.mpr ⟨noCode,noQuery⟩)).elim
  · rename_i noCode noFile _
    exact (never (alone_queryKey.mpr ⟨noCode,noFile⟩)).elim
  · rfl

theorem error_of_flaw {reason : String} (flaw : Flaw members reason) :
    ofMembers? members = .error (.invalidOperation reason) := by
  cases flaw with
  | several among among' different present present' =>
    exact ofMembers?_several among among' different present present'
  | @code found given alone notString =>
    obtain ⟨noFile,noQuery⟩ := alone_codeKey.mp alone
    rw [ofMembers?,given,noFile,noQuery]
    cases found with
    | string text => exact (notString text rfl).elim
    | null | bool | number | list | object => rfl
  | @file found given alone notString =>
    obtain ⟨noCode,noQuery⟩ := alone_fileKey.mp alone
    rw [ofMembers?,given,noCode,noQuery]
    cases found with
    | string text => exact (notString text rfl).elim
    | null | bool | number | list | object => rfl
  | fileParams given alone found notList =>
    obtain ⟨noCode,noQuery⟩ := alone_fileKey.mp alone
    rw [ofMembers?,given,noCode,noQuery]
    exact Except.map_eq_error.mpr (templateParams_eq_error.mpr ⟨_,found,notList,rfl⟩)
  | queryParams given alone found notList =>
    obtain ⟨noCode,noFile⟩ := alone_queryKey.mp alone
    rw [ofMembers?,given,noCode,noFile]
    exact Except.map_eq_error.mpr (templateParams_eq_error.mpr ⟨_,found,notList,rfl⟩)

theorem flaw_of_error (failed : ofMembers? members = .error error) :
    ∃ reason, error = .invalidOperation reason ∧ Flaw members reason := by
  have known {reason : String} (flaw : Flaw members reason) :
      ∃ reason, error = .invalidOperation reason ∧ Flaw members reason := by
    rw [error_of_flaw flaw] at failed
    exact ⟨reason,(Except.error.inj failed).symm,flaw⟩
  have several {key other : String} {value value' : Value} (among : key ∈ codeKeys)
      (among' : other ∈ codeKeys) (different : key ≠ other)
      (found : Members.get? key members = some value)
      (found' : Members.get? other members = some value') :
      ∃ reason, error = .invalidOperation reason ∧ Flaw members reason :=
    known (.several among among' different (Members.mem_keys_iff.mpr ⟨_,found⟩)
      (Members.mem_keys_iff.mpr ⟨_,found'⟩))
  cases code : Members.get? codeKey members with
  | some brought =>
    cases file : Members.get? fileKey members with
    | some _ => exact several codeKey_mem fileKey_mem (by decide) code file
    | none =>
      cases query : Members.get? queryKey members with
      | some _ => exact several codeKey_mem queryKey_mem (by decide) code query
      | none =>
        by_cases notString : ∀ text, brought ≠ .string text
        · exact known (.code code (alone_codeKey.mpr ⟨file,query⟩) notString)
        · obtain ⟨text,rfl⟩ := not_forall_not.mp notString
          rw [ofMembers?,code,file,query] at failed
          contradiction
  | none =>
    cases file : Members.get? fileKey members with
    | some brought =>
      cases query : Members.get? queryKey members with
      | some _ => exact several fileKey_mem queryKey_mem (by decide) file query
      | none =>
        have alone := alone_fileKey.mpr ⟨code,query⟩
        by_cases notString : ∀ text, brought ≠ .string text
        · exact known (.file file alone notString)
        · obtain ⟨text,rfl⟩ := not_forall_not.mp notString
          rw [ofMembers?,code,file,query] at failed
          obtain ⟨found,given,notList,rfl⟩ :=
            templateParams_eq_error.mp (Except.map_eq_error.mp failed)
          exact ⟨_,rfl,.fileParams file alone given notList⟩
    | none =>
      cases query : Members.get? queryKey members with
      | some brought =>
        rw [ofMembers?,code,file,query] at failed
        obtain ⟨found,given,notList,rfl⟩ :=
          templateParams_eq_error.mp (Except.map_eq_error.mp failed)
        exact ⟨_,rfl,.queryParams query (alone_queryKey.mpr ⟨code,file⟩) given notList⟩
      | none =>
        rw [ofMembers?,code,file,query] at failed
        contradiction

/-- An object is acceptable when nothing is wrong with it. -/
theorem acceptable_iff_no_flaw : Acceptable members ↔ ∀ reason, ¬ Flaw members reason := by
  constructor
  · intro acceptable reason flaw
    cases flaw with
    | several among among' different present present' =>
      exact different (acceptable.single _ among _ among' present present')
    | code given _ notString =>
      obtain ⟨text,same⟩ := acceptable.code _ given
      exact notString text same
    | file given _ notString =>
      obtain ⟨text,same⟩ := acceptable.file _ given
      exact notString text same
    | fileParams given _ found notList =>
      obtain ⟨items,same⟩ := acceptable.params (.inl (Members.mem_keys_iff.mpr ⟨_,given⟩)) _ found
      exact notList items same
    | queryParams given _ found notList =>
      obtain ⟨items,same⟩ := acceptable.params (.inr (Members.mem_keys_iff.mpr ⟨_,given⟩)) _ found
      exact notList items same
  · intro flawless
    have single : ∀ key ∈ codeKeys, ∀ other ∈ codeKeys,
        key ∈ Members.keys members → other ∈ Members.keys members → key = other := by
      intro key among other among' present present'
      by_contra different
      exact flawless _ (.several among among' different present present')
    have alone {key : String} {value : Value} (among : key ∈ codeKeys)
        (found : Members.get? key members = some value) : Alone key members :=
      alone_of_single single among (Members.mem_keys_iff.mpr ⟨_,found⟩)
    have code : ∀ found, Members.get? codeKey members = some found →
        ∃ text, found = .string text := by
      intro found given
      by_contra notString
      exact flawless _ (.code given (alone codeKey_mem given) (not_exists.mp notString))
    have file : ∀ found, Members.get? fileKey members = some found →
        ∃ text, found = .string text := by
      intro found given
      by_contra notString
      exact flawless _ (.file given (alone fileKey_mem given) (not_exists.mp notString))
    refine ⟨single,code,file,fun template found given => ?_⟩
    by_contra notList
    rcases template with present | present
    · obtain ⟨value,brought⟩ := Members.mem_keys_iff.mp present
      obtain ⟨text,rfl⟩ := file value brought
      exact flawless _ (.fileParams brought (alone fileKey_mem brought) given
        (not_exists.mp notList))
    · obtain ⟨value,brought⟩ := Members.mem_keys_iff.mp present
      exact flawless _ (.queryParams brought (alone queryKey_mem brought) given
        (not_exists.mp notList))

/-- What an object brings, if it brings nothing wrong. -/
theorem brought_iff {code : Option Code} :
    Brought members code ↔ Acceptable members ∧ Matches members code := by
  constructor
  · intro brought
    have read := ofMembers?_eq_ok.mpr brought
    refine ⟨acceptable_iff_no_flaw.mpr fun reason flaw => ?_,?_⟩
    · rw [error_of_flaw flaw] at read
      contradiction
    · cases brought with
      | nothing absent => exact fun key among => Members.get?_eq_none_iff.mp (absent key among)
      | code given => exact given
      | file given _ params => exact ⟨given,templateParams_eq_ok.mp params⟩
      | query given _ params => exact ⟨given,templateParams_eq_ok.mp params⟩
  · rintro ⟨acceptable,brings⟩
    have alone {key : String} {value : Value} (among : key ∈ codeKeys)
        (found : Members.get? key members = some value) : Alone key members :=
      alone_of_single acceptable.single among (Members.mem_keys_iff.mpr ⟨_,found⟩)
    cases code with
    | none => exact .nothing fun key among => Members.get?_eq_none_iff.mpr (brings key among)
    | some source =>
      cases source with
      | verbatim text => exact .code brings (alone codeKey_mem brings)
      | ofFile file params =>
        obtain ⟨given,params⟩ := brings
        exact .file given (alone fileKey_mem given) (templateParams_eq_ok.mpr params)
      | ofQuery query params =>
        obtain ⟨given,params⟩ := brings
        exact .query given (alone queryKey_mem given) (templateParams_eq_ok.mpr params)

theorem exists_brought_iff : (∃ code, Brought members code) ↔ Acceptable members := by
  constructor
  · rintro ⟨code,brought⟩
    exact (brought_iff.mp brought).1
  · intro acceptable
    cases read : ofMembers? members with
    | ok code => exact ⟨code,ofMembers?_eq_ok.mp read⟩
    | error error =>
      obtain ⟨reason,-,flaw⟩ := flaw_of_error read
      exact (acceptable_iff_no_flaw.mp acceptable reason flaw).elim

end Code

namespace Operation

/-- An entry of a transaction that can be read. -/
def Acceptable (entry : Value) : Prop := ∃ members, entry = .object members ∧ Code.Acceptable members

/-- What is wrong with an entry, as it is reported. -/
inductive Flaw : Value → String → Prop where
  | notObject {entry : Value} : (∀ members, entry ≠ .object members) →
      Flaw entry s!"expected a JSON object, got {kind entry}"
  | code {members : Members} {reason : String} :
      Code.Flaw members reason → Flaw (.object members) reason

/-- The operation that an entry stands for has the members of its object as fields, those with a
meaning of their own apart, and the code that they bring. -/
def StandsFor (entry : Value) (operation : Operation) : Prop :=
  ∃ members, entry = .object members ∧
    operation.fields = members.filter (fun member => member.1 ∉ reservedKeys) ∧
    Code.Matches members operation.code

variable {entry : Value} {operation : Operation}

theorem ofValue_iff_standsFor :
    ofValue entry = .ok operation ↔ Acceptable entry ∧ StandsFor entry operation := by
  rw [ofValue_eq_ok]
  constructor
  · rintro ⟨members,rfl,same,brought⟩
    obtain ⟨acceptable,brings⟩ := Code.brought_iff.mp brought
    exact ⟨⟨members,rfl,acceptable⟩,members,rfl,same.trans (plainFields_eq_filter members),brings⟩
  · rintro ⟨⟨members,rfl,acceptable⟩,_,⟨⟩,same,brings⟩
    exact ⟨members,rfl,same.trans (plainFields_eq_filter members).symm,
      Code.brought_iff.mpr ⟨acceptable,brings⟩⟩

theorem exists_ofValue_iff : (∃ operation, ofValue entry = .ok operation) ↔ Acceptable entry := by
  constructor
  · rintro ⟨operation,read⟩
    exact (ofValue_iff_standsFor.mp read).1
  · rintro ⟨members,rfl,acceptable⟩
    obtain ⟨code,brought⟩ := Code.exists_brought_iff.mpr acceptable
    exact ⟨⟨plainFields members,code⟩,ofValue_eq_ok.mpr ⟨members,rfl,rfl,brought⟩⟩

theorem ofValue_iff_flaw :
    ofValue entry = .error error ↔ ∃ reason, error = .invalidOperation reason ∧ Flaw entry reason := by
  constructor
  · intro refused
    cases entry with
    | object members =>
      obtain ⟨reason,same,flaw⟩ := Code.flaw_of_error (Except.map_eq_error.mp refused)
      exact ⟨reason,same,.code flaw⟩
    | null | bool | number | string | list =>
      exact ⟨_,(Except.error.inj refused).symm,.notObject nofun⟩
  · rintro ⟨reason,rfl,flaw⟩
    cases flaw with
    | notObject other =>
      cases entry with
      | object members => exact (other members rfl).elim
      | null | bool | number | string | list => rfl
    | code flaw => exact Except.map_eq_error.mpr (Code.error_of_flaw flaw)

end Operation

namespace Transaction

/-- A value is a transaction when it is a list of acceptable entries, and then it is read as the
operations that they stand for, in their order. Otherwise it is reported that it is no list, or what
is wrong with the first entry that is not acceptable. -/
theorem ofValue_decided (value : Value) :
    ((∃ transaction, ofValue value = .ok transaction) ↔
        ∃ entries, value = .list entries ∧ ∀ entry ∈ entries, Operation.Acceptable entry) ∧
      (∀ transaction, ofValue value = .ok transaction ↔
        ∃ entries, value = .list entries ∧ List.Forall₂
          (fun entry operation => Operation.Acceptable entry ∧ Operation.StandsFor entry operation)
          entries transaction) ∧
      ∀ error, ofValue value = .error error ↔
        ((∀ entries, value ≠ .list entries) ∧
          error = .invalidOperation s!"expected a list of operations, got {kind value}") ∨
        ∃ before entry after reason, value = .list (before ++ entry :: after) ∧
          (∀ earlier ∈ before, Operation.Acceptable earlier) ∧ ¬ Operation.Acceptable entry ∧
          Operation.Flaw entry reason ∧ error = .invalidOperation reason := by
  refine ⟨?_,fun transaction => ?_,fun error => ?_⟩
  · simp only [ofValue_eq_ok,← Operation.exists_ofValue_iff,← Except.exists_mapM_iff]
    constructor
    · rintro ⟨transaction,entries,same,each⟩
      exact ⟨entries,same,transaction,each⟩
    · rintro ⟨entries,same,transaction,each⟩
      exact ⟨transaction,entries,same,each⟩
  · simp only [ofValue_eq_ok,Except.mapM_eq_ok,Operation.ofValue_iff_standsFor]
  · constructor
    · intro refused
      cases value with
      | list entries =>
        obtain ⟨before,entry,after,rfl,passed,failed⟩ := Except.mapM_eq_error.mp refused
        obtain ⟨reason,rfl,flaw⟩ := Operation.ofValue_iff_flaw.mp failed
        have bad : ¬ Operation.Acceptable entry := by
          rw [← Operation.exists_ofValue_iff,failed]
          exact nofun
        refine .inr ⟨before,entry,after,reason,rfl,fun earlier member => ?_,bad,flaw,rfl⟩
        exact Operation.exists_ofValue_iff.mp (passed earlier member)
      | null | bool | number | string | object =>
        exact .inl ⟨nofun,(Except.error.inj refused).symm⟩
    · rintro (⟨other,rfl⟩ | ⟨before,entry,after,reason,rfl,passed,-,flaw,rfl⟩)
      · cases value with
        | list entries => exact (other entries rfl).elim
        | null | bool | number | string | object => rfl
      · refine Except.mapM_eq_error.mpr ⟨before,entry,after,rfl,fun earlier member => ?_,?_⟩
        · exact Operation.exists_ofValue_iff.mpr (passed earlier member)
        · exact Operation.ofValue_iff_flaw.mpr ⟨reason,rfl,flaw⟩

example : ofValue (.list [.object [("code",.null),("code_expand",.string "f.clj")],.null]) =
    .error (.invalidOperation
      "only one of 'code', 'code_expand' and 'code_from_query' may be present") := by decide

end Transaction

end LedgerRehearsal
