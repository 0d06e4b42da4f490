import LedgerRehearsal.Proofs.InTurn
import LedgerRehearsal.Proofs.Json.Reading
import LedgerRehearsal.Proofs.Roles.Table

/-! Resolving role tables. Every index becomes the key at its place, so nothing is lost, reordered or
merged; the first index without a key decides the failure. -/
namespace LedgerRehearsal

open Json

/-- The indices of a table with the names of their sets, in the order in which they are resolved. -/
def RoleTable.mentions (table : RoleTable) : List (String × Nat) :=
  table.yes.map (Prod.mk "yes") ++ table.no.map (Prod.mk "no") ++
    table.tyes.map (Prod.mk "tyes") ++ table.tno.map (Prod.mk "tno")

namespace RoleSets

variable {scenario set text : String} {keys picked : List Key} {indices : List Nat}
variable {table : RoleTable} {roles : RoleSets} {members others : Members}

/-- Each set has one key for each of its indices, the one that stands there among the keys. -/
structure Resolved (table : RoleTable) (roles : RoleSets) : Prop where
  yes : List.Forall₂ (fun index key => table.keys[index]? = some key) table.yes roles.yes
  no : List.Forall₂ (fun index key => table.keys[index]? = some key) table.no roles.no
  tyes : List.Forall₂ (fun index key => table.keys[index]? = some key) table.tyes roles.tyes
  tno : List.Forall₂ (fun index key => table.keys[index]? = some key) table.tno roles.tno

/-- The failure of an index that has no key. -/
def outOfRange? (scenario : String) (count : Nat) (mention : String × Nat) : Option ScenarioError :=
  if mention.2 < count then none
  else some (.roleIndexOutOfRange scenario mention.1 mention.2 count)

theorem pick_eq_ok : pick scenario keys set indices = .ok picked ↔
    List.Forall₂ (fun index key => keys[index]? = some key) indices picked := by
  rw [pick,Except.mapM_eq_ok]
  refine iff_of_eq (congrArg (List.Forall₂ · indices picked) ?_)
  funext index key
  cases keys[index]? <;> simp

theorem errorOf?_pick : errorOf? (pick scenario keys set indices) =
    (indices.map (Prod.mk set)).findSome? (outOfRange? scenario keys.length) := by
  rw [pick,errorOf?_mapM,List.findSome?_map]
  refine congrArg (List.findSome? · indices) ?_
  funext index
  simp only [Function.comp_apply,outOfRange?]
  split
  · rename_i key found
    rw [if_pos (List.getElem?_eq_some_iff.mp found).1]
    rfl
  · rename_i absent
    rw [if_neg (Nat.not_lt.mpr (List.getElem?_eq_none_iff.mp absent))]
    rfl

/-- The sets are resolved one after another, so the first index without a key fails. -/
theorem errorOf?_resolve : errorOf? (resolve scenario table) =
    table.mentions.findSome? (outOfRange? scenario table.keys.length) := by
  have steps : errorOf? (resolve scenario table) = [
      errorOf? (pick scenario table.keys "yes" table.yes),
      errorOf? (pick scenario table.keys "no" table.no),
      errorOf? (pick scenario table.keys "tyes" table.tyes),
      errorOf? (pick scenario table.keys "tno" table.tno)].findSome? id :=
    errorOf?_bind fun _ => errorOf?_bind fun _ => errorOf?_bind fun _ => errorOf?_bind fun _ => rfl
  rw [steps,errorOf?_pick,errorOf?_pick,errorOf?_pick,errorOf?_pick,RoleTable.mentions,
    List.findSome?_append,List.findSome?_append,List.findSome?_append]
  generalize (table.yes.map _).findSome? _ = yes, (table.no.map _).findSome? _ = no,
    (table.tyes.map _).findSome? _ = tyes, (table.tno.map _).findSome? _ = tno
  cases yes <;> cases no <;> cases tyes <;> cases tno <;> rfl

theorem resolve_eq_ok : resolve scenario table = .ok roles ↔ Resolved table roles := by
  constructor
  · intro resolved
    obtain ⟨yes,given_yes,resolved⟩ := Except.bind_eq_ok.mp resolved
    obtain ⟨no,given_no,resolved⟩ := Except.bind_eq_ok.mp resolved
    obtain ⟨tyes,given_tyes,resolved⟩ := Except.bind_eq_ok.mp resolved
    obtain ⟨tno,given_tno,resolved⟩ := Except.bind_eq_ok.mp resolved
    cases resolved
    exact ⟨pick_eq_ok.mp given_yes,pick_eq_ok.mp given_no,pick_eq_ok.mp given_tyes,
      pick_eq_ok.mp given_tno⟩
  · intro resolved
    rw [resolve,pick_eq_ok.mpr resolved.yes,pick_eq_ok.mpr resolved.no,
      pick_eq_ok.mpr resolved.tyes,pick_eq_ok.mpr resolved.tno]
    rfl

theorem outOfRange?_eq_none {count : Nat} {mention : String × Nat} :
    outOfRange? scenario count mention = none ↔ mention.2 < count := by
  unfold outOfRange?
  split <;> simp [*]

theorem exists_resolve_iff : (∃ roles, resolve scenario table = .ok roles) ↔
    ∀ mention ∈ table.mentions, mention.2 < table.keys.length := by
  have none : errorOf? (resolve scenario table) = none ↔
      ∀ mention ∈ table.mentions, mention.2 < table.keys.length := by
    rw [errorOf?_resolve,List.findSome?_eq_none_iff]
    simp only [outOfRange?_eq_none]
  rw [← none]
  cases resolve scenario table <;> simp

theorem resolve_eq_error {error : ScenarioError} : resolve scenario table = .error error ↔
    ∃ before set index after, table.mentions = before ++ (set,index) :: after ∧
      (∀ mention ∈ before, mention.2 < table.keys.length) ∧ table.keys.length ≤ index ∧
      error = .roleIndexOutOfRange scenario set index table.keys.length := by
  rw [← errorOf?_eq_some,errorOf?_resolve,List.findSome?_eq_some_iff]
  simp only [outOfRange?_eq_none]
  constructor
  · rintro ⟨before,⟨set,index⟩,after,split,failed,passed⟩
    unfold outOfRange? at failed
    split at failed
    · contradiction
    · rename_i outside
      exact ⟨before,set,index,after,split,passed,Nat.not_lt.mp outside,(Option.some.inj failed).symm⟩
  · rintro ⟨before,set,index,after,split,passed,outside,rfl⟩
    exact ⟨before,(set,index),after,split,if_neg (Nat.not_lt.mpr outside),passed⟩

/-- What becomes of a table in a text. -/
def outcome (scenario : String) : Except String RoleTable → Except Failure RoleSets
  | .error reason => .error (.settings (.malformed ⟨roleFile⟩ reason))
  | .ok table => (resolve scenario table).mapError .scenario

section

variable [Diagnostics]

theorem ofText_object (parsed : parse text = some (.object members)) :
    ofText scenario text = outcome scenario (RoleTable.read members) := by
  rw [ofText,parsed]
  simp only [ofValue,RoleTable.ofValue_stripComments (parse_readable parsed).ordered.1]
  rfl

/-- A table object is resolved exactly when every index has a key, and then to the keys at the
indices; otherwise the first index without a key is reported, in the order of the sets and of their
lists. A table that says nothing of the kind is malformed. Tables that say the same have the same
result or the same failure. -/
theorem ofText_resolved (parsed : parse text = some (.object members)) :
    (∀ table, RoleTable.Tells members table →
      ((∃ roles, ofText scenario text = .ok roles) ↔
        ∀ mention ∈ table.mentions, mention.2 < table.keys.length) ∧
      (∀ roles, ofText scenario text = .ok roles → Resolved table roles) ∧
      ∀ failure, ofText scenario text = .error failure ↔
        ∃ before set index after, table.mentions = before ++ (set,index) :: after ∧
          (∀ mention ∈ before, mention.2 < table.keys.length) ∧ table.keys.length ≤ index ∧
          failure = .scenario (.roleIndexOutOfRange scenario set index table.keys.length)) ∧
    ((∀ table, ¬ RoleTable.Tells members table) →
      ∃ reason, ofText scenario text = .error (.settings (.malformed ⟨roleFile⟩ reason))) ∧
    ∀ other others, parse other = some (.object others) → RoleTable.Restates members others →
      ofText scenario other = ofText scenario text := by
  have ordered := (parse_readable parsed).ordered
  rw [ofText_object parsed]
  refine ⟨fun table tells => ?_,fun untold => ?_,fun other others parsed' same => ?_⟩
  · rw [(RoleTable.read_eq_ok ordered).mpr tells]
    refine ⟨?_,fun roles resolved => resolve_eq_ok.mp (Except.mapError_eq_ok.mp resolved),
      fun failure => ?_⟩
    · simp only [outcome,Except.mapError_eq_ok]
      exact exists_resolve_iff
    · rw [outcome,Except.mapError_eq_error]
      constructor
      · rintro ⟨_,failed,rfl⟩
        obtain ⟨before,set,index,after,split,passed,outside,rfl⟩ := resolve_eq_error.mp failed
        exact ⟨before,set,index,after,split,passed,outside,rfl⟩
      · rintro ⟨before,set,index,after,split,passed,outside,rfl⟩
        exact ⟨_,resolve_eq_error.mpr ⟨before,set,index,after,split,passed,outside,rfl⟩,rfl⟩
  · cases given : RoleTable.read members with
    | ok table => exact (untold table ((RoleTable.read_eq_ok ordered).mp given)).elim
    | error reason => exact ⟨reason,rfl⟩
  · rw [ofText_object parsed',same.read_eq ordered (parse_readable parsed').ordered]

end

/-- A table with comments, one of its keys a list. -/
def remarked : String :=
  "\x7b\"COMMENT\":0,\"keys\":[\x7b\"COMMENT\":[],\"private\":\"p\",\"account-id\":\"ann\"\x7d," ++
    "[\"q\",\"bob\"]],\"yes\":[1,0,1],\"no\":null,\"tyes\":1\x7d"

def remarkedMembers : Members := [
  ("COMMENT",.ofNat 0),
  ("keys",.list [
    .object [("COMMENT",.list []),("account-id",.string "ann"),("private",.string "p")],
    .list [.string "q",.string "bob"]]),
  ("no",.null),
  ("tyes",.ofNat 1),
  ("yes",.list [.ofNat 1,.ofNat 0,.ofNat 1])]

def remarkedTable : RoleTable := ⟨[⟨"p","ann"⟩,⟨"q","bob"⟩],[1,0,1],[],[1],[]⟩

/-- The same table without comments, and with lists where it has single indices. -/
def unremarked : String :=
  "\x7b\"keys\":[\x7b\"private\":\"p\",\"account-id\":\"ann\"\x7d,[\"q\",\"bob\"]]," ++
    "\"yes\":[1,0,1],\"tno\":[],\"tyes\":[1]\x7d"

def unremarkedMembers : Members := [
  ("keys",.list [
    .object [("account-id",.string "ann"),("private",.string "p")],
    .list [.string "q",.string "bob"]]),
  ("tno",.list []),
  ("tyes",.list [.ofNat 1]),
  ("yes",.list [.ofNat 1,.ofNat 0,.ofNat 1])]

theorem parse_remarked : parse remarked = some (.object remarkedMembers) := by decide +kernel

theorem parse_unremarked : parse unremarked = some (.object unremarkedMembers) := by decide +kernel

theorem remarked_tells : RoleTable.Tells remarkedMembers remarkedTable where
  keys := by
    refine ⟨_,rfl,.cons (.object ?_ rfl rfl) (.cons (.list ⟨"q","bob"⟩) .nil)⟩
    decide
  yes := .many [1,0,1]
  no := .null
  tyes := .one 1
  tno := .absent

theorem remarked_restates : RoleTable.Restates remarkedMembers unremarkedMembers where
  keys := by
    refine .entries (.cons (.objects fun name other => ?_) (.cons (.refl _) .nil))
    exact if_neg (Ne.symm other)
  sets := by
    simp only [List.forall_mem_cons]
    exact ⟨.refl _,.indices .null .absent,.indices (.one 1) (.many [1]),.indices .absent (.many []),
      nofun⟩

theorem remarked_resolved :
    parse remarked = some (.object remarkedMembers) ∧
      RoleTable.Tells remarkedMembers remarkedTable ∧
      (∃ roles, ofText "s" remarked = .ok roles ∧ Resolved remarkedTable roles) ∧
      parse unremarked = some (.object unremarkedMembers) ∧
      RoleTable.Restates remarkedMembers unremarkedMembers ∧
      ofText "s" unremarked = ofText "s" remarked := by
  obtain ⟨told,-,restated⟩ := @ofText_resolved "s" remarked remarkedMembers _ parse_remarked
  obtain ⟨fits,faithful,-⟩ := told remarkedTable remarked_tells
  obtain ⟨roles,resolved⟩ := fits.mpr (by decide)
  exact ⟨parse_remarked,remarked_tells,⟨roles,resolved,faithful roles resolved⟩,parse_unremarked,
    remarked_restates,restated _ _ parse_unremarked remarked_restates⟩

-- an index of the second set fails before one of the last
example : ofText "s" "\x7b\"keys\":[[\"p\",\"ann\"]],\"tno\":7,\"no\":[0,2],\"yes\":0\x7d" =
    .error (.scenario (.roleIndexOutOfRange "s" "no" 2 1)) := by decide +kernel

end RoleSets

end LedgerRehearsal
