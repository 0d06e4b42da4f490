import LedgerRehearsal.Proofs.Json.Fields
import LedgerRehearsal.Proofs.Json.Shape
import LedgerRehearsal.Proofs.Operation.Comments
import LedgerRehearsal.Roles

/-! What role tables say. A table is read field by field, so it is known which values are tables and
what is read of them, and that a table can be written in other ways that say the same. -/
namespace LedgerRehearsal

open Json

namespace Key

/-- A key as it is written: an object of its two texts, with a comment or without, or the list of the
two. -/
inductive Written : Value → Key → Prop where
  | object {members : Members} {key : Key} :
      (∀ name ∈ members.keys, name = "private" ∨ name = "account-id" ∨ name = commentKey) →
      members.get? "private" = some (.string key.secret) →
      members.get? "account-id" = some (.string key.account) → Written (.object members) key
  | list (key : Key) : Written (.list [.string key.secret,.string key.account]) key

variable {members : Members} {item : Value} {key : Key}

theorem mapM_string_eq_ok {given : Option Value} {text? : Option String} :
    given.mapM Shape.string = .ok text? ↔ given = text?.map .string := by
  cases given with
  | none =>
    change (.ok none : Except String _) = .ok text? ↔ _
    cases text? <;> simp
  | some value =>
    change (Shape.string value).map some = .ok text? ↔ _
    rw [Except.map_eq_ok]
    cases text? <;> simp [Shape.string_eq_ok]

theorem visit_known {seen after : Option String × Option String} {member : String × Value}
    (visited : visit seen member = .ok after) :
    member.1 = "private" ∨ member.1 = "account-id" := by
  unfold visit at visited
  split at visited
  · exact .inl ‹_›
  · split at visited
    · exact .inr ‹_›
    · contradiction

theorem foldlM_known {seen after : Option String × Option String}
    (visited : members.foldlM visit seen = .ok after) :
    ∀ name ∈ members.keys, name = "private" ∨ name = "account-id" := by
  induction members generalizing seen with
  | nil => exact nofun
  | cons member members ih =>
    rw [List.foldlM_cons] at visited
    obtain ⟨next,first,rest⟩ := Except.bind_eq_ok.mp visited
    exact List.forall_mem_cons.mpr ⟨visit_known first,ih rest⟩

/-- The fields of a key object without its comment. -/
def fieldsOf (key : Key) : Members :=
  [("account-id",.string key.account),("private",.string key.secret)]

theorem ascending_fieldsOf (key : Key) : key.fieldsOf.Ascending := by
  simp only [Members.Ascending,Members.keys,fieldsOf,List.map_cons,List.map_nil]
  decide

theorem foldlM_visit (members : Members) :
    (members.fields ["account-id","private"]).foldlM visit (none,none) = (do
      let account? ← (members.get? "account-id").mapM Shape.string
      let secret? ← (members.get? "private").mapM Shape.string
      .ok (secret?,account?)) := by
  rw [Members.foldlM_fields_cons (fun account? => (none,account?)) Shape.string fun _ => rfl]
  refine bind_congr fun account? => ?_
  exact Members.foldlM_fields_cons (fun secret? => (secret?,account?)) Shape.string fun _ => rfl

theorem ofValue_object_eq_ok (ascending : members.Ascending) :
    ofValue (.object members) = .ok key ↔ members = key.fieldsOf := by
  constructor
  · intro read
    obtain ⟨seen,visited,read⟩ := Except.bind_eq_ok.mp read
    have known : members = members.fields ["account-id","private"] := by
      refine Members.eq_fields ascending (by decide) fun name present => ?_
      rcases foldlM_known visited name present with rfl | rfl <;> decide
    rw [known,foldlM_visit] at visited
    obtain ⟨account?,account,visited⟩ := Except.bind_eq_ok.mp visited
    obtain ⟨secret?,secret,visited⟩ := Except.bind_eq_ok.mp visited
    cases visited
    rw [known,Members.fields,List.filterMap_cons,List.filterMap_cons,
      mapM_string_eq_ok.mp account,mapM_string_eq_ok.mp secret]
    cases secret? <;> cases account? <;> cases read
    rfl
  · rintro rfl
    rfl

theorem erase_eq_fieldsOf_iff (ascending : members.Ascending) :
    members.erase commentKey = key.fieldsOf ↔ Written (.object members) key := by
  constructor
  · intro same
    have kept (name : String) (other : name ≠ commentKey) :
        members.get? name = key.fieldsOf.get? name := by
      rw [← same,Members.get?_erase,if_neg other]
    refine .object (fun name present => ?_) (kept _ (by decide)) (kept _ (by decide))
    by_cases comment : name = commentKey
    · exact .inr (.inr comment)
    · obtain ⟨value,found⟩ := Members.mem_keys_iff.mp present
      have among := Members.mem_keys_iff.mpr ⟨value,(kept name comment).symm.trans found⟩
      simp only [fieldsOf,Members.keys,List.map_cons,List.map_nil,List.mem_cons,List.not_mem_nil,
        or_false] at among
      exact among.elim (.inr ∘ .inl) .inl
  · intro written
    cases written with
    | object known secret account =>
      refine Members.eq_of_get? (Members.ascending_erase ascending)
        (ascending_fieldsOf key) fun name => ?_
      rw [Members.get?_erase]
      by_cases present : name ∈ members.keys
      · rcases known name present with rfl | rfl | rfl
        · exact secret
        · exact account
        · rfl
      · have absent := Members.get?_eq_none_iff.mpr present
        have apart (field : String) {value : Value} (found : members.get? field = some value) :
            field ≠ name := by
          rintro rfl
          exact present (Members.mem_keys_iff.mpr ⟨value,found⟩)
        rw [absent,ite_self,fieldsOf,Members.get?_cons,Members.get?_cons,
          if_neg (apart _ account),if_neg (apart _ secret)]
        rfl

theorem ofValue_list_eq_ok {items : List Value} :
    ofValue (.list items) = .ok key ↔ items = [.string key.secret,.string key.account] := by
  constructor
  · intro read
    obtain _ | ⟨first,_ | ⟨second,rest⟩⟩ := items
    · contradiction
    · obtain ⟨_,-,failed⟩ := Except.bind_eq_ok.mp read
      contradiction
    · obtain ⟨secret,first,read⟩ := Except.bind_eq_ok.mp read
      obtain ⟨account,second,read⟩ := Except.bind_eq_ok.mp read
      obtain rfl := Shape.string_eq_ok.mp first
      obtain rfl := Shape.string_eq_ok.mp second
      cases rest with
      | nil =>
        cases read
        rfl
      | cons => contradiction
  · rintro rfl
    rfl

/-- The keys that can be read are those that are written so. -/
theorem ofValue_stripEntry_eq_ok (ordered : Ordered item) :
    ofValue (stripEntry item) = .ok key ↔ Written item key := by
  cases item with
  | object members =>
    rw [stripEntry,ofValue_object_eq_ok (Members.ascending_erase ordered.1),
      erase_eq_fieldsOf_iff ordered.1]
  | list items =>
    refine ofValue_list_eq_ok.trans ⟨?_,?_⟩
    · rintro rfl
      exact .list key
    · rintro ⟨⟩
      rfl
  | null | bool | number | string =>
    constructor
    · intro read
      contradiction
    · intro written
      cases written

end Key

namespace RoleTable

/-- What is said of a role set, and the indices that it stands for. -/
inductive Gives : Option Value → List Nat → Prop where
  | absent : Gives none []
  | null : Gives (some .null) []
  | one (index : Nat) : Gives (some (.ofNat index)) [index]
  | many (indices : List Nat) : Gives (some (.list (indices.map .ofNat))) indices

/-- What the members of a table object say. Members of other names say nothing. -/
structure Tells (members : Members) (table : RoleTable) : Prop where
  keys : ∃ items, members.get? "keys" = some (.list items) ∧
    List.Forall₂ Key.Written items table.keys
  yes : Gives (members.get? "yes") table.yes
  no : Gives (members.get? "no") table.no
  tyes : Gives (members.get? "tyes") table.tyes
  tno : Gives (members.get? "tno") table.tno

variable {members others : Members} {table : RoleTable} {given other : Option Value}
variable {found : List Nat} {keys : List Key} {names : List String}

theorem index_eq_ok {value : Value} {n : Nat} : index value = .ok n ↔ value = .ofNat n := by
  unfold index
  split
  · simp only [Value.ofNat,Except.ok.injEq,Value.number.injEq,Number.integer.injEq]
    exact Int.ofNat_inj.symm
  · rename_i other
    refine ⟨nofun,?_⟩
    rintro rfl
    exact (other n rfl).elim

theorem indices_eq_ok : indices (given.getD .null) = .ok found ↔ Gives given found := by
  constructor
  · intro read
    cases given with
    | none =>
      cases read
      exact .absent
    | some value =>
      rw [Option.getD_some] at read
      unfold indices at read
      split at read
      · cases read
        exact .null
      · have each := Except.mapM_eq_ok.mp read
        simp only [index_eq_ok] at each
        rw [← List.forall₂_map_right_iff,List.forall₂_eq_eq_eq] at each
        rw [each]
        exact .many found
      · obtain ⟨n,one,rfl⟩ := Except.map_eq_ok.mp read
        rw [index_eq_ok.mp one]
        exact .one n
  · intro gives
    cases gives with
    | absent | null | one => rfl
    | many =>
      refine Except.mapM_eq_ok.mpr (List.forall₂_map_left_iff.mpr ?_)
      exact List.forall₂_same.mpr fun n _ => rfl

/-- The indices that are read of a role set. -/
def said (members : Members) (name : String) : Except String (List Nat) :=
  indices ((members.get? name).getD .null)

/-- The keys that are read of a table, if it lists any. -/
def listed (members : Members) : Except String (Option (List Key)) :=
  ((members.get? "keys").map LedgerRehearsal.stripComments).mapM (Shape.list Key.ofValue)

/-- A table object read field by field, in the order of the names of the fields. -/
def read (members : Members) : Except String RoleTable := do
  let keys? ← listed members
  let no ← said members "no"
  let tno ← said members "tno"
  let tyes ← said members "tyes"
  let yes ← said members "yes"
  match keys? with
  | some keys => .ok ⟨keys,yes,no,tyes,tno⟩
  | none => .error "missing field `keys`"

theorem foldlM_set_cons {name : String} (seen : List Nat → Option (List Key) × RoleTable)
    (visited : ∀ value, visit (seen []) (name,value) = (indices value).map seen) :
    (members.fields (name :: names)).foldlM visit (seen []) =
      said members name >>= fun found => (members.fields names).foldlM visit (seen found) := by
  refine (Members.foldlM_fields_cons (fun found? => seen (found?.getD [])) indices visited).trans ?_
  unfold said
  cases members.get? name with
  | none => rfl
  | some value =>
    change (indices value).map some >>= _ = indices value >>= _
    cases indices value <;> rfl

def fieldNames : List String := ["keys","no","tno","tyes","yes"]

theorem visit_other (member : String × Value) (other : member.1 ∉ fieldNames)
    (seen : Option (List Key) × RoleTable) : visit seen member = .ok seen := by
  simp only [fieldNames,List.mem_cons,List.not_mem_nil,or_false,not_or] at other
  obtain ⟨keys,no,tno,tyes,yes⟩ := other
  rw [visit,if_neg keys,if_neg yes,if_neg no,if_neg tyes,if_neg tno]

theorem ofValue_object (ascending : members.Ascending) : ofValue (.object members) = (do
    let keys? ← (members.get? "keys").mapM (Shape.list Key.ofValue)
    let no ← said members "no"
    let tno ← said members "tno"
    let tyes ← said members "tyes"
    let yes ← said members "yes"
    match keys? with
    | some keys => .ok ⟨keys,yes,no,tyes,tno⟩
    | none => .error "missing field `keys`") := by
  have sorted : fieldNames.Pairwise (· < ·) := by decide
  rw [ofValue,Members.foldlM_eq_fields ascending sorted visit_other,fieldNames,
    Members.foldlM_fields_cons (fun keys? => (keys?,(⟨[],[],[],[],[]⟩ : RoleTable)))
      (Shape.list Key.ofValue) fun _ => rfl,bind_assoc]
  refine bind_congr fun keys? => ?_
  rw [foldlM_set_cons (fun no => (keys?,⟨[],[],no,[],[]⟩)) fun _ => rfl,bind_assoc]
  refine bind_congr fun no => ?_
  rw [foldlM_set_cons (fun tno => (keys?,⟨[],[],no,[],tno⟩)) fun _ => rfl,bind_assoc]
  refine bind_congr fun tno => ?_
  rw [foldlM_set_cons (fun tyes => (keys?,⟨[],[],no,tyes,tno⟩)) fun _ => rfl,bind_assoc]
  refine bind_congr fun tyes => ?_
  rw [foldlM_set_cons (fun yes => (keys?,⟨[],yes,no,tyes,tno⟩)) fun _ => rfl,bind_assoc]
  refine bind_congr fun yes => ?_
  cases keys? <;> rfl

/-- The keys of a table are read without their comments, any other field as it is. -/
def stripField (member : String × Value) : String × Value :=
  if member.1 = "keys" then (member.1,LedgerRehearsal.stripComments member.2) else member

theorem stripField_fst (member : String × Value) : (stripField member).1 = member.1 := by
  unfold stripField
  split <;> rfl

theorem stripComments_object (members : Members) :
    stripComments (.object members) = .object ((members.erase commentKey).map stripField) := rfl

/-- A table without its comments is read as its fields, and there the comments are no more. -/
theorem ofValue_stripComments (ascending : members.Ascending) :
    ofValue (stripComments (.object members)) = read members := by
  have plain (name : String) (other : name ≠ commentKey) (other' : name ≠ "keys") :
      said ((members.erase commentKey).map stripField) name = said members name := by
    rw [said,Members.get?_map stripField_fst,Members.get?_erase,if_neg other,said]
    cases members.get? name <;> simp [stripField,other']
  have keys : Members.get? "keys" ((members.erase commentKey).map stripField) =
      (members.get? "keys").map LedgerRehearsal.stripComments := by
    rw [Members.get?_map stripField_fst,Members.get?_erase,if_neg (by decide)]
    rfl
  rw [stripComments_object,
    ofValue_object (Members.ascending_map stripField_fst (Members.ascending_erase ascending)),keys,
    plain "no" (by decide) (by decide),plain "tno" (by decide) (by decide),
    plain "tyes" (by decide) (by decide),plain "yes" (by decide) (by decide)]
  rfl

theorem mapM_keys_eq_ok {items : List Value} (ordered : ∀ item ∈ items, Ordered item) :
    (items.map stripEntry).mapM Key.ofValue = .ok keys ↔
      List.Forall₂ Key.Written items keys := by
  rw [Except.mapM_eq_ok,List.forall₂_map_left_iff]
  induction items generalizing keys with
  | nil => simp
  | cons item items ih =>
    obtain ⟨first,rest⟩ := List.forall_mem_cons.mp ordered
    simp only [List.forall₂_cons_left_iff,Key.ofValue_stripEntry_eq_ok first,ih rest]

theorem listed_eq_ok (ordered : Ordered (.object members)) :
    listed members = .ok (some keys) ↔ ∃ items, members.get? "keys" = some (.list items) ∧
      List.Forall₂ Key.Written items keys := by
  unfold listed
  cases found : members.get? "keys" with
  | none => exact ⟨nofun,nofun⟩
  | some value =>
    have within : Ordered value :=
      orderedMembers_iff.mp ordered.2 _ (Members.mem_of_get? found)
    change (Shape.list Key.ofValue (LedgerRehearsal.stripComments value)).map some = _ ↔ _
    rw [Except.map_eq_ok]
    cases value with
    | list items =>
      simp only [LedgerRehearsal.stripComments,Shape.list,
        mapM_keys_eq_ok (orderedItems_iff.mp within)]
      simp
    | null | bool | number | string | object =>
      simp [LedgerRehearsal.stripComments,stripEntry,Shape.list]

theorem read_eq_ok (ordered : Ordered (.object members)) :
    read members = .ok table ↔ Tells members table := by
  constructor
  · intro given
    obtain ⟨keys?,keys,given⟩ := Except.bind_eq_ok.mp given
    obtain ⟨no,given_no,given⟩ := Except.bind_eq_ok.mp given
    obtain ⟨tno,given_tno,given⟩ := Except.bind_eq_ok.mp given
    obtain ⟨tyes,given_tyes,given⟩ := Except.bind_eq_ok.mp given
    obtain ⟨yes,given_yes,given⟩ := Except.bind_eq_ok.mp given
    cases keys? with
    | none => contradiction
    | some listedKeys =>
      cases given
      exact ⟨(listed_eq_ok ordered).mp keys,indices_eq_ok.mp given_yes,indices_eq_ok.mp given_no,
        indices_eq_ok.mp given_tyes,indices_eq_ok.mp given_tno⟩
  · intro tells
    have keys := (listed_eq_ok ordered).mpr tells.keys
    have yes : said members "yes" = .ok table.yes := indices_eq_ok.mpr tells.yes
    have no : said members "no" = .ok table.no := indices_eq_ok.mpr tells.no
    have tyes : said members "tyes" = .ok table.tyes := indices_eq_ok.mpr tells.tyes
    have tno : said members "tno" = .ok table.tno := indices_eq_ok.mpr tells.tno
    rw [read,keys,yes,no,tyes,tno]
    rfl

/-- The same entry, or an object that differs from the other in its comment at most. -/
inductive SameButComment : Value → Value → Prop where
  | refl (entry : Value) : SameButComment entry entry
  | objects {members others : Members} :
      (∀ name, name ≠ commentKey → members.get? name = others.get? name) →
      SameButComment (.object members) (.object others)

/-- What two tables say of their keys, if they say the same. -/
inductive SameKeys : Option Value → Option Value → Prop where
  | refl (given : Option Value) : SameKeys given given
  | entries {items others : List Value} : List.Forall₂ SameButComment items others →
      SameKeys (some (.list items)) (some (.list others))

/-- What two tables say of a role set, if they say the same or the same indices. -/
inductive SameSet : Option Value → Option Value → Prop where
  | refl (given : Option Value) : SameSet given given
  | indices {given other : Option Value} {found : List Nat} :
      Gives given found → Gives other found → SameSet given other

/-- Two table objects that say the same. Their comments are no part of it, and neither are members
of unknown names. -/
structure Restates (members others : Members) : Prop where
  keys : SameKeys (members.get? "keys") (others.get? "keys")
  sets : ∀ name ∈ ["yes","no","tyes","tno"], SameSet (members.get? name) (others.get? name)

theorem SameButComment.stripEntry_eq {entry entry' : Value} (same : SameButComment entry entry')
    (ordered : Ordered entry) (ordered' : Ordered entry') :
    stripEntry entry = stripEntry entry' := by
  cases same with
  | refl => rfl
  | objects same =>
    refine congrArg Value.object (Members.eq_of_get? (Members.ascending_erase ordered.1)
      (Members.ascending_erase ordered'.1) fun name => ?_)
    rw [Members.get?_erase,Members.get?_erase]
    split
    · rfl
    · exact same name ‹_›

theorem map_stripEntry_eq {items others : List Value}
    (same : List.Forall₂ SameButComment items others)
    (ordered : ∀ item ∈ items, Ordered item) (ordered' : ∀ item ∈ others, Ordered item) :
    items.map stripEntry = others.map stripEntry := by
  induction same with
  | nil => rfl
  | cons first _ ih =>
    obtain ⟨head,tail⟩ := List.forall_mem_cons.mp ordered
    obtain ⟨head',tail'⟩ := List.forall_mem_cons.mp ordered'
    rw [List.map_cons,List.map_cons,first.stripEntry_eq head head',ih tail tail']

theorem SameKeys.listed_eq (same : SameKeys (members.get? "keys") (others.get? "keys"))
    (ordered : Ordered (.object members)) (ordered' : Ordered (.object others)) :
    listed members = listed others := by
  unfold listed
  generalize given : members.get? "keys" = keys, given' : others.get? "keys" = keys' at same
  cases same with
  | refl => rfl
  | entries each =>
    have within :=
      orderedItems_iff.mp (orderedMembers_iff.mp ordered.2 _ (Members.mem_of_get? given))
    have within' :=
      orderedItems_iff.mp (orderedMembers_iff.mp ordered'.2 _ (Members.mem_of_get? given'))
    rw [Option.map_some,Option.map_some,LedgerRehearsal.stripComments,
      map_stripEntry_eq each within within',LedgerRehearsal.stripComments]

theorem SameSet.said_eq {name : String} (same : SameSet (members.get? name) (others.get? name)) :
    said members name = said others name := by
  unfold said
  generalize members.get? name = given, others.get? name = given' at same
  cases same with
  | refl => rfl
  | indices gives gives' => rw [indices_eq_ok.mpr gives,indices_eq_ok.mpr gives']

/-- Tables that say the same are read alike, or refused for the same reason. -/
theorem Restates.read_eq (same : Restates members others) (ordered : Ordered (.object members))
    (ordered' : Ordered (.object others)) : read members = read others := by
  have said_eq (name : String) (among : name ∈ ["yes","no","tyes","tno"]) :=
    (same.sets name among).said_eq
  rw [read,same.keys.listed_eq ordered ordered',said_eq "no" (by simp),said_eq "tno" (by simp),
    said_eq "tyes" (by simp),said_eq "yes" (by simp)]
  rfl

end RoleTable

end LedgerRehearsal
