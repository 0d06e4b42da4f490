import LedgerRehearsal.Expansion
import LedgerRehearsal.Proofs.Json.Members
import LedgerRehearsal.Proofs.Json.Reading
import LedgerRehearsal.Proofs.Result

/-! Operations as they are read and written. Reading drops the comment and nothing else, writing
gives back what was read, and an operation that was read or expanded is read again as itself. -/
namespace LedgerRehearsal

open Json

/-- The keys that bring code. -/
def codeKeys : List String := [codeKey,fileKey,queryKey]

theorem codeKey_mem : codeKey ∈ codeKeys := by simp [codeKeys]

theorem fileKey_mem : fileKey ∈ codeKeys := by simp [codeKeys]

theorem queryKey_mem : queryKey ∈ codeKeys := by simp [codeKeys]

theorem codeKeys_cases {key : String} (among : key ∈ codeKeys) :
    key = codeKey ∨ key = fileKey ∨ key = queryKey := by simpa [codeKeys] using among

/-- An object that can stand for an operation on the ledger: it has no comment, and one of the keys
that bring code at most. -/
def IsOperation (value : Value) : Prop :=
  ∃ members, value = .object members ∧ commentKey ∉ Members.keys members ∧
    ∀ key ∈ codeKeys, ∀ other ∈ codeKeys,
      key ∈ Members.keys members → other ∈ Members.keys members → key = other

/-- An object without template keys. -/
def IsExpanded (value : Value) : Prop :=
  ∃ members, value = .object members ∧ fileKey ∉ Members.keys members ∧
    queryKey ∉ Members.keys members

/-- No key brings code, unless it is the given one. -/
def Alone (key : String) (members : Members) : Prop :=
  ∀ other ∈ codeKeys, other ≠ key → Members.get? other members = none

theorem alone_codeKey {members : Members} :
    Alone codeKey members ↔
      Members.get? fileKey members = none ∧ Members.get? queryKey members = none := by
  simp [Alone,codeKeys,codeKey,fileKey,queryKey]

theorem alone_fileKey {members : Members} :
    Alone fileKey members ↔
      Members.get? codeKey members = none ∧ Members.get? queryKey members = none := by
  simp [Alone,codeKeys,codeKey,fileKey,queryKey]

theorem alone_queryKey {members : Members} :
    Alone queryKey members ↔
      Members.get? codeKey members = none ∧ Members.get? fileKey members = none := by
  simp [Alone,codeKeys,codeKey,fileKey,queryKey]

/-- What brings the code of an object. -/
inductive Code.Brought (members : Members) : Option Code → Prop where
  | nothing : (∀ key ∈ codeKeys, Members.get? key members = none) → Brought members none
  | code {code : String} :
      Members.get? codeKey members = some (.string code) → Alone codeKey members →
      Brought members (some (.verbatim code))
  | file {file : String} {params : List Value} :
      Members.get? fileKey members = some (.string file) → Alone fileKey members →
      templateParams members = .ok params → Brought members (some (.ofFile file params))
  | query {query : Value} {params : List Value} :
      Members.get? queryKey members = some query → Alone queryKey members →
      templateParams members = .ok params → Brought members (some (.ofQuery query params))

theorem Code.ofMembers?_eq_ok {members : Members} {code : Option Code} :
    Code.ofMembers? members = .ok code ↔ Brought members code := by
  constructor
  · intro read
    unfold Code.ofMembers? at read
    split at read
    · rename_i noCode noFile noQuery
      cases read
      exact .nothing (by simp [codeKeys,noCode,noFile,noQuery])
    · rename_i found noFile noQuery
      cases read
      exact .code found (alone_codeKey.mpr ⟨noFile,noQuery⟩)
    · cases read
    · rename_i noCode found noQuery
      obtain ⟨params,given,rfl⟩ := Except.map_eq_ok.mp read
      exact .file found (alone_fileKey.mpr ⟨noCode,noQuery⟩) given
    · cases read
    · rename_i noCode noFile found
      obtain ⟨params,given,rfl⟩ := Except.map_eq_ok.mp read
      exact .query found (alone_queryKey.mpr ⟨noCode,noFile⟩) given
    · cases read
  · intro brought
    unfold Code.ofMembers?
    cases brought with
    | nothing absent =>
      rw [absent codeKey codeKey_mem,absent fileKey fileKey_mem,
        absent queryKey queryKey_mem]
    | code found alone =>
      obtain ⟨noFile,noQuery⟩ := alone_codeKey.mp alone
      rw [found,noFile,noQuery]
    | file found alone given =>
      obtain ⟨noCode,noQuery⟩ := alone_fileKey.mp alone
      rw [noCode,found,noQuery,given]
      rfl
    | query found alone given =>
      obtain ⟨noCode,noFile⟩ := alone_queryKey.mp alone
      rw [noCode,noFile,found,given]
      rfl

theorem get?_plainFields (key : String) (members : Members) :
    Members.get? key (plainFields members) =
      if key = commentKey ∨ key ∈ codeKeys then none else Members.get? key members := by
  simp only [plainFields,Members.get?_erase,codeKeys,List.mem_cons,List.not_mem_nil,or_false]
  by_cases comment : key = commentKey <;> by_cases code : key = codeKey <;>
    by_cases file : key = fileKey <;> by_cases query : key = queryKey <;>
    simp [comment,code,file,query]

theorem get?_erased {key : String} {members : Members} (other : String)
    (absent : Members.get? key members = none) :
    Members.get? key (Members.erase other members) = none := by
  rw [Members.get?_erase,absent,ite_self]

theorem plainFields_of_absent {members : Members}
    (absent : ∀ key ∈ codeKeys, Members.get? key members = none) :
    plainFields members = Members.erase commentKey members := by
  have none (key : String) (among : key ∈ codeKeys) := get?_erased commentKey (absent key among)
  rw [plainFields,Members.erase_of_absent (none codeKey codeKey_mem),
    Members.erase_of_absent (none fileKey fileKey_mem),
    Members.erase_of_absent (none queryKey queryKey_mem)]

theorem plainFields_of_alone {key : String} {members : Members} (among : key ∈ codeKeys)
    (alone : Alone key members) :
    plainFields members = Members.erase key (Members.erase commentKey members) := by
  unfold plainFields
  rcases codeKeys_cases among with rfl | rfl | rfl
  · obtain ⟨noFile,noQuery⟩ := alone_codeKey.mp alone
    have noFile := get?_erased codeKey (get?_erased commentKey noFile)
    have noQuery := get?_erased codeKey (get?_erased commentKey noQuery)
    rw [Members.erase_of_absent noFile,Members.erase_of_absent noQuery]
  · obtain ⟨noCode,noQuery⟩ := alone_fileKey.mp alone
    have noCode := get?_erased commentKey noCode
    have noQuery := get?_erased fileKey (get?_erased commentKey noQuery)
    rw [Members.erase_of_absent noCode,Members.erase_of_absent noQuery]
  · obtain ⟨noCode,noFile⟩ := alone_queryKey.mp alone
    have noCode := get?_erased commentKey noCode
    have noFile := get?_erased commentKey noFile
    rw [Members.erase_of_absent noCode,Members.erase_of_absent noFile]

/-- Fields of which none has a meaning of its own. -/
structure PlainFields (fields : Members) : Prop where
  uncommented : Members.get? commentKey fields = none
  plain : ∀ key ∈ codeKeys, Members.get? key fields = none

theorem plain_plainFields (members : Members) : PlainFields (plainFields members) := by
  refine ⟨?_,fun key among => ?_⟩
  · rw [get?_plainFields,if_pos (.inl rfl)]
  · rw [get?_plainFields,if_pos (.inr among)]

theorem templateParams_congr {fields others : Members}
    (same : Members.get? paramsKey fields = Members.get? paramsKey others) :
    templateParams fields = templateParams others := by
  rw [templateParams,templateParams,same]

namespace PlainFields

variable {fields : Members} {key : String} {value : Value}

theorem alone_insert (plain : PlainFields fields) : Alone key (fields.insert key value) := by
  intro other among different
  rw [Members.get?_insert,if_neg different]
  exact plain.plain other among

theorem plainFields_eq (plain : PlainFields fields) : plainFields fields = fields := by
  rw [plainFields_of_absent plain.plain,Members.erase_of_absent plain.uncommented]

theorem plainFields_insert (plain : PlainFields fields) (among : key ∈ codeKeys) :
    plainFields (fields.insert key value) = fields := by
  have different : commentKey ≠ key := by
    rcases codeKeys_cases among with rfl | rfl | rfl <;> decide
  have uncommented : Members.get? commentKey (Members.insert key value fields) = none := by
    rw [Members.get?_insert,if_neg different,plain.uncommented]
  rw [plainFields_of_alone among plain.alone_insert,Members.erase_of_absent uncommented,
    Members.erase_insert (plain.plain key among)]

theorem templateParams_insert (among : key ∈ codeKeys) :
    templateParams (Members.insert key value fields) = templateParams fields := by
  refine templateParams_congr ?_
  have different : paramsKey ≠ key := by
    rcases codeKeys_cases among with rfl | rfl | rfl <;> decide
  rw [Members.get?_insert,if_neg different]

end PlainFields

/-- The parameters of a template form. -/
def Code.params? : Code → Option (List Value)
  | .verbatim _ => none
  | .ofFile _ params | .ofQuery _ params => some params

namespace Operation

/-- Operations as they are read: the keys with a meaning of their own are not among the fields, and
the parameters of a template are those that its fields hold. -/
structure WellFormed (operation : Operation) : Prop where
  plain : PlainFields operation.fields
  params : ∀ params, operation.code.bind Code.params? = some params →
    templateParams operation.fields = .ok params

variable {operation expanded : Operation} {value : Value} {files : Files} {dir : Path}

theorem ofValue_eq_ok :
    ofValue value = .ok operation ↔ ∃ members, value = .object members ∧
      operation.fields = plainFields members ∧ Code.Brought members operation.code := by
  constructor
  · intro read
    cases value with
    | object members =>
      obtain ⟨code,brought,rfl⟩ := Except.map_eq_ok.mp read
      exact ⟨members,rfl,rfl,Code.ofMembers?_eq_ok.mp brought⟩
    | null | bool | number | string | list => cases read
  · rintro ⟨members,rfl,same,brought⟩
    rw [ofValue,Code.ofMembers?_eq_ok.mpr brought,Except.map,← same]

theorem wellFormed_ofValue (read : ofValue value = .ok operation) : operation.WellFormed := by
  obtain ⟨members,rfl,same,brought⟩ := ofValue_eq_ok.mp read
  have kept : templateParams operation.fields = templateParams members := by
    rw [same]
    exact templateParams_congr (get?_plainFields paramsKey members)
  refine ⟨same ▸ plain_plainFields members,fun params named => ?_⟩
  rw [kept]
  cases code : operation.code with
  | none => simp [code] at named
  | some source =>
    rw [code] at brought named
    cases brought with
    | code => cases named
    | file _ _ given | query _ _ given => exact Option.some.inj named ▸ given

/-- An operation that is written is read as itself. -/
theorem ofValue_toValue (formed : operation.WellFormed) :
    ofValue operation.toValue = .ok operation := by
  obtain ⟨fields,code⟩ := operation
  obtain ⟨plain,params⟩ := formed
  refine ofValue_eq_ok.mpr ⟨_,rfl,?_⟩
  cases code with
  | none => exact ⟨plain.plainFields_eq.symm,.nothing plain.plain⟩
  | some source =>
    cases source with
    | verbatim code =>
      refine ⟨(plain.plainFields_insert codeKey_mem).symm,.code ?_ plain.alone_insert⟩
      rw [Members.get?_insert,if_pos rfl]
    | ofFile file given =>
      refine ⟨(plain.plainFields_insert fileKey_mem).symm,.file ?_ plain.alone_insert ?_⟩
      · rw [Members.get?_insert,if_pos rfl]
      · exact (PlainFields.templateParams_insert fileKey_mem).trans (params given rfl)
    | ofQuery query given =>
      refine ⟨(plain.plainFields_insert queryKey_mem).symm,.query ?_ plain.alone_insert ?_⟩
      · rw [Members.get?_insert,if_pos rfl]
      · exact (PlainFields.templateParams_insert queryKey_mem).trans (params given rfl)

/-- Reading drops the comment and nothing else. -/
theorem toValue_ofValue (ordered : Ordered value) (read : ofValue value = .ok operation) :
    operation.toValue = stripEntry value := by
  obtain ⟨members,rfl,same,brought⟩ := ofValue_eq_ok.mp read
  obtain ⟨fields,code⟩ := operation
  obtain rfl := same
  have ascending : Members.Ascending (Members.erase commentKey members) :=
    Members.ascending_erase ordered.1
  -- what brings the code is taken out of the fields when it is read and put back here
  have back (key : String) (found : Value) (among : key ∈ codeKeys) (alone : Alone key members)
      (here : Members.get? key members = some found) :
      Members.insert key found (plainFields members) = Members.erase commentKey members := by
    have different : key ≠ commentKey := by
      rcases codeKeys_cases among with rfl | rfl | rfl <;> decide
    rw [plainFields_of_alone among alone]
    refine Members.insert_erase ascending ?_
    rw [Members.get?_erase,if_neg different,here]
  refine congrArg Value.object ?_
  cases brought with
  | nothing absent => exact plainFields_of_absent absent
  | code found alone => exact back codeKey _ codeKey_mem alone found
  | file found alone _ => exact back fileKey _ fileKey_mem alone found
  | query found alone _ => exact back queryKey _ queryKey_mem alone found

/-- Expanding keeps the fields and leaves no template. -/
theorem expand_eq_ok [Diagnostics] (done : operation.expand files dir = .ok expanded) :
    expanded.fields = operation.fields ∧
      (expanded.code = none ∨ ∃ code, expanded.code = some (.verbatim code)) := by
  unfold expand at done
  split at done
  · rename_i none
    cases done
    exact ⟨rfl,.inl none⟩
  · rename_i source _
    obtain ⟨code,given,rfl⟩ := Except.map_eq_ok.mp done
    refine ⟨rfl,.inr ?_⟩
    cases source with
    | verbatim text =>
      cases given
      exact ⟨text,rfl⟩
    | ofFile | ofQuery =>
      obtain ⟨_,-,rfl⟩ := Except.map_eq_ok.mp given
      exact ⟨_,rfl⟩

theorem wellFormed_expand [Diagnostics] (formed : operation.WellFormed)
    (done : operation.expand files dir = .ok expanded) : expanded.WellFormed := by
  obtain ⟨same,code⟩ := expand_eq_ok done
  refine ⟨same ▸ formed.plain,fun params named => ?_⟩
  rcases code with code | ⟨text,code⟩
  · simp [code] at named
  · simp [code,Code.params?] at named

theorem isExpanded_expand [Diagnostics] (done : operation.expand files dir = .ok expanded) :
    expanded.isExpanded = true := by
  obtain ⟨-,code | ⟨text,code⟩⟩ := expand_eq_ok done <;> rw [isExpanded,code]

/-- What is written: the fields, and a member that brings code, if there is any. -/
theorem toValue_cases (operation : Operation) :
    operation.toValue = .object operation.fields ∨
      ∃ key value, operation.toValue = .object (Members.insert key value operation.fields) ∧
        key ∈ codeKeys ∧ (operation.isExpanded = true → key = codeKey) := by
  obtain ⟨fields,code⟩ := operation
  cases code with
  | none => exact .inl rfl
  | some source =>
    refine .inr ?_
    cases source with
    | verbatim text => exact ⟨codeKey,.string text,rfl,codeKey_mem,fun _ => rfl⟩
    | ofFile file => exact ⟨fileKey,.string file,rfl,fileKey_mem,nofun⟩
    | ofQuery query => exact ⟨queryKey,query,rfl,queryKey_mem,nofun⟩

theorem isOperation_toValue (formed : operation.WellFormed) : IsOperation operation.toValue := by
  obtain ⟨⟨uncommented,plain⟩,-⟩ := formed
  rcases toValue_cases operation with written | ⟨key,value,written,among,-⟩
  · refine ⟨_,written,Members.get?_eq_none_iff.mp uncommented,?_⟩
    intro key among other _ present
    exact absurd present (Members.get?_eq_none_iff.mp (plain key among))
  · have different : commentKey ≠ key := by
      rcases codeKeys_cases among with rfl | rfl | rfl <;> decide
    have only (other : String) (among : other ∈ codeKeys)
        (present : other ∈ Members.keys (Members.insert key value operation.fields)) :
        other = key := by
      by_contra apart
      refine Members.get?_eq_none_iff.mp ?_ present
      rw [Members.get?_insert,if_neg apart,plain other among]
    refine ⟨_,written,Members.get?_eq_none_iff.mp ?_,?_⟩
    · rw [Members.get?_insert,if_neg different,uncommented]
    · intro first among other among' present present'
      exact (only first among present).trans (only other among' present').symm

theorem isExpanded_toValue (formed : operation.WellFormed) (done : operation.isExpanded = true) :
    IsExpanded operation.toValue := by
  have plain := formed.plain.plain
  have noFile := plain fileKey fileKey_mem
  have noQuery := plain queryKey queryKey_mem
  rcases toValue_cases operation with written | ⟨key,value,written,-,expanded⟩
  · exact ⟨_,written,Members.get?_eq_none_iff.mp noFile,Members.get?_eq_none_iff.mp noQuery⟩
  · obtain rfl := expanded done
    refine ⟨_,written,Members.get?_eq_none_iff.mp ?_,Members.get?_eq_none_iff.mp ?_⟩
    · rw [Members.get?_insert,if_neg (by decide),noFile]
    · rw [Members.get?_insert,if_neg (by decide),noQuery]

section

variable {kind : Number → Prop} {depth : Nat}

/-- The object of an operation that was read is as readable as what it was read from. -/
theorem readable_ofValue (readable : Readable kind (depth + 1) value)
    (read : ofValue value = .ok operation) : Readable kind (depth + 1) operation.toValue := by
  rw [toValue_ofValue readable.ordered read]
  obtain ⟨members,rfl,-,-⟩ := ofValue_eq_ok.mp read
  obtain ⟨ascending,each⟩ := readable_object.mp readable
  refine readable_object.mpr ⟨Members.ascending_erase ascending,fun member present => ?_⟩
  exact each member (Members.mem_of_mem_erase present)

/-- Expanding puts texts into an object, so it stays as readable as it was. -/
theorem readable_expand [Diagnostics] (formed : operation.WellFormed)
    (readable : Readable kind (depth + 1) operation.toValue)
    (done : operation.expand files dir = .ok expanded) :
    Readable kind (depth + 1) expanded.toValue := by
  obtain ⟨same,code⟩ := expand_eq_ok done
  have fields : Readable kind (depth + 1) (.object operation.fields) := by
    rcases toValue_cases operation with written | ⟨key,value,written,among,-⟩
    · exact written ▸ readable
    · rw [written] at readable
      obtain ⟨ascending,each⟩ := readable_object.mp readable
      have back : Members.erase key (Members.insert key value operation.fields) =
          operation.fields := Members.erase_insert (formed.plain.plain key among)
      rw [← back]
      refine readable_object.mpr ⟨Members.ascending_erase ascending,fun member present => ?_⟩
      exact each member (Members.mem_of_mem_erase present)
  obtain ⟨ascending,each⟩ := readable_object.mp fields
  obtain ⟨others,code'⟩ := expanded
  obtain rfl := same
  rcases code with rfl | ⟨text,rfl⟩
  · exact fields
  · refine readable_object.mpr ⟨Members.ascending_insert ascending,fun member present => ?_⟩
    rcases Members.mem_insert present with rfl | earlier
    · exact readable_string text
    · exact each member earlier

end

end Operation

namespace Transaction

def WellFormed (transaction : Transaction) : Prop := ∀ operation ∈ transaction, operation.WellFormed

variable {transaction expanded : Transaction} {value : Value} {files : Files} {dir : Path}

theorem ofValue_eq_ok :
    ofValue value = .ok transaction ↔
      ∃ entries, value = .list entries ∧ entries.mapM Operation.ofValue = .ok transaction := by
  cases value <;> simp [ofValue]

theorem wellFormed_ofValue (read : ofValue value = .ok transaction) :
    WellFormed transaction := by
  obtain ⟨entries,rfl,each⟩ := ofValue_eq_ok.mp read
  intro operation member
  obtain ⟨entry,-,given⟩ := Except.exists_of_mem_mapM each member
  exact Operation.wellFormed_ofValue given

theorem wellFormed_expand [Diagnostics] (formed : WellFormed transaction)
    (done : transaction.expand files dir = .ok expanded) : WellFormed expanded := by
  intro operation member
  obtain ⟨template,among,given⟩ := Except.exists_of_mem_mapM done member
  exact Operation.wellFormed_expand (formed template among) given

theorem isExpanded_expand [Diagnostics] (done : transaction.expand files dir = .ok expanded) :
    ∀ operation ∈ expanded, operation.isExpanded = true := by
  intro operation member
  obtain ⟨template,-,given⟩ := Except.exists_of_mem_mapM done member
  exact Operation.isExpanded_expand given

/-- A transaction is a list of what its operations are. -/
theorem toValue_each {motive : Value → Prop}
    (each : ∀ operation ∈ transaction, motive operation.toValue) :
    ∃ operations, toValue transaction = .list operations ∧
      ∀ operation ∈ operations, motive operation := by
  refine ⟨_,rfl,fun value member => ?_⟩
  obtain ⟨operation,among,rfl⟩ := List.mem_map.mp member
  exact each operation among

theorem ofValue_toValue (formed : WellFormed transaction) :
    ofValue (toValue transaction) = .ok transaction := by
  refine ofValue_eq_ok.mpr ⟨_,rfl,Except.mapM_eq_ok.mpr ?_⟩
  rw [List.forall₂_map_left_iff]
  exact List.forall₂_same.mpr fun operation member =>
    Operation.ofValue_toValue (formed operation member)

theorem toValue_ofValue (ordered : Ordered value) (read : ofValue value = .ok transaction) :
    toValue transaction = stripComments value := by
  obtain ⟨entries,rfl,each⟩ := ofValue_eq_ok.mp read
  refine congrArg Value.list (Except.map_eq_of_mapM each fun entry member operation given => ?_)
  exact Operation.toValue_ofValue (orderedItems_iff.mp ordered entry member) given

section

variable {kind : Number → Prop} {depth : Nat}

theorem readable_ofValue (readable : Readable kind (depth + 2) value)
    (read : ofValue value = .ok transaction) :
    ∀ operation ∈ transaction, Readable kind (depth + 1) operation.toValue := by
  obtain ⟨entries,rfl,each⟩ := ofValue_eq_ok.mp read
  intro operation member
  obtain ⟨entry,among,given⟩ := Except.exists_of_mem_mapM each member
  exact Operation.readable_ofValue (readable_list.mp readable entry among) given

theorem readable_expand [Diagnostics] (formed : WellFormed transaction)
    (readable : ∀ operation ∈ transaction, Readable kind (depth + 1) operation.toValue)
    (done : transaction.expand files dir = .ok expanded) :
    ∀ operation ∈ expanded, Readable kind (depth + 1) operation.toValue := by
  intro operation member
  obtain ⟨template,among,given⟩ := Except.exists_of_mem_mapM done member
  exact Operation.readable_expand (formed template among) (readable template among) given

end

end Transaction

end LedgerRehearsal
