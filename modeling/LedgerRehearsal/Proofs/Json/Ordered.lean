import LedgerRehearsal.Json.Canonical
import Mathlib.Data.List.Induction

/-! The order of members. A value is ordered when the members of its objects stand in the order of
their keys, at every level. The canonical form is ordered, and an ordered value is its own canonical
form. -/
namespace LedgerRehearsal.Json

namespace Members

/-- Each key is greater than the one before. -/
def Ascending (members : Members) : Prop := members.keys.Pairwise (· < ·)

variable {key : String} {value : Value} {members : Members}

theorem mem_insert {member : String × Value} (present : member ∈ insert key value members) :
    member = (key,value) ∨ member ∈ members := by
  induction members with
  | nil => simpa [insert] using present
  | cons head rest ih =>
    unfold insert at present
    split at present
    · exact (List.mem_cons.mp present).imp id (List.mem_cons_of_mem _)
    · split at present
      · exact List.mem_cons.mp present
      · rcases List.mem_cons.mp present with rfl | later
        · exact .inr List.mem_cons_self
        · exact (ih later).imp id (List.mem_cons_of_mem _)

theorem ascending_cons {head : String × Value} {rest : Members} :
    Ascending (head :: rest) ↔ (∀ member ∈ rest, head.1 < member.1) ∧ Ascending rest := by
  rw [Ascending,keys,List.map_cons,List.pairwise_cons]
  simp [Ascending,keys]

theorem ascending_insert (ascending : Ascending members) :
    Ascending (insert key value members) := by
  induction members with
  | nil => simp [insert,Ascending,keys]
  | cons head rest ih =>
    obtain ⟨first,later⟩ := ascending_cons.mp ascending
    unfold insert
    split
    · rename_i same
      exact ascending_cons.mpr ⟨fun member present => same ▸ first member present,later⟩
    · rename_i different
      split
      · rename_i before
        refine ascending_cons.mpr ⟨fun member present => ?_,ascending⟩
        rcases List.mem_cons.mp present with rfl | present
        · exact before
        · exact String.lt_trans before (first member present)
      · rename_i notBefore
        have after : head.1 < key :=
          Std.lt_of_le_of_ne (Std.not_lt.mp notBefore) (Ne.symm different)
        refine ascending_cons.mpr ⟨fun member present => ?_,ih later⟩
        rcases mem_insert present with rfl | present
        · exact after
        · exact first member present

/-- A member that comes after all others is put at the end. -/
theorem insert_last (after : ∀ member ∈ members, member.1 < key) :
    insert key value members = members ++ [(key,value)] := by
  induction members with
  | nil => rfl
  | cons head rest ih =>
    have later := after head List.mem_cons_self
    have different : key ≠ head.1 := fun same => String.lt_irrefl _ (same ▸ later)
    have notBefore : ¬ key < head.1 := String.lt_asymm later
    rw [insert,if_neg different,if_neg notBefore,
      ih fun member present => after member (List.mem_cons_of_mem _ present)]
    rfl

theorem ofList_append (pairs : List (String × Value)) (pair : String × Value) :
    ofList (pairs ++ [pair]) = insert pair.1 pair.2 (ofList pairs) := by
  rw [ofList,List.foldl_append]
  rfl

theorem mem_ofList {member : String × Value} {pairs : List (String × Value)}
    (present : member ∈ ofList pairs) : member ∈ pairs := by
  induction pairs using List.reverseRecOn with
  | nil => exact present
  | append_singleton pairs pair ih =>
    rw [ofList_append] at present
    rcases mem_insert present with rfl | earlier
    · exact List.mem_append_right _ List.mem_cons_self
    · exact List.mem_append_left _ (ih earlier)

theorem ascending_ofList (pairs : List (String × Value)) : Ascending (ofList pairs) := by
  induction pairs using List.reverseRecOn with
  | nil => exact .nil
  | append_singleton pairs pair ih =>
    rw [ofList_append]
    exact ascending_insert ih

theorem ofList_ascending (ascending : Ascending members) : ofList members = members := by
  induction members using List.reverseRecOn with
  | nil => rfl
  | append_singleton members member ih =>
    rw [Ascending,keys,List.map_append,List.pairwise_append] at ascending
    obtain ⟨earlier,-,last⟩ := ascending
    rw [ofList_append,ih earlier]
    refine insert_last fun other present => ?_
    exact last other.1 (List.mem_map_of_mem present) member.1 (by simp)

end Members

mutual

/-- The members of all objects stand in the order of their keys. -/
def Ordered : Value → Prop
  | .list items => OrderedItems items
  | .object members => Members.Ascending members ∧ OrderedMembers members
  | .null | .bool _ | .number _ | .string _ => True

def OrderedItems : List Value → Prop
  | [] => True
  | item :: rest => Ordered item ∧ OrderedItems rest

def OrderedMembers : List (String × Value) → Prop
  | [] => True
  | (_, value) :: rest => Ordered value ∧ OrderedMembers rest

end

theorem orderedMembers_iff {members : List (String × Value)} :
    OrderedMembers members ↔ ∀ member ∈ members, Ordered member.2 := by
  induction members with
  | nil => simp [OrderedMembers]
  | cons member members ih => simp [OrderedMembers,ih]

mutual

theorem ordered_canonical : (value : Value) → Ordered (canonical value)
  | .list items => orderedItems_canonical items
  | .object members => by
    refine ⟨Members.ascending_ofList _,orderedMembers_iff.mpr fun member present => ?_⟩
    exact orderedMembers_iff.mp (orderedMembers_canonical members) member
      (Members.mem_ofList present)
  | .null | .bool _ | .number _ | .string _ => trivial

theorem orderedItems_canonical : (items : List Value) → OrderedItems (canonicalItems items)
  | [] => trivial
  | item :: rest => ⟨ordered_canonical item,orderedItems_canonical rest⟩

theorem orderedMembers_canonical :
    (members : List (String × Value)) → OrderedMembers (canonicalMembers members)
  | [] => trivial
  | (_, value) :: rest => ⟨ordered_canonical value,orderedMembers_canonical rest⟩

end

mutual

/-- The canonical form of an ordered value is the value. -/
theorem canonical_of_ordered : (value : Value) → Ordered value → canonical value = value
  | .list items, ordered => by rw [canonical,canonicalItems_of_ordered items ordered]
  | .object members, ordered => by
    rw [canonical,canonicalMembers_of_ordered members ordered.2,
      Members.ofList_ascending ordered.1]
  | .null, _ | .bool _, _ | .number _, _ | .string _, _ => rfl

theorem canonicalItems_of_ordered :
    (items : List Value) → OrderedItems items → canonicalItems items = items
  | [], _ => rfl
  | item :: rest, ordered => by
    rw [canonicalItems,canonical_of_ordered item ordered.1,
      canonicalItems_of_ordered rest ordered.2]

theorem canonicalMembers_of_ordered :
    (members : List (String × Value)) → OrderedMembers members → canonicalMembers members = members
  | [], _ => rfl
  | (_, value) :: rest, ordered => by
    rw [canonicalMembers,canonical_of_ordered value ordered.1,
      canonicalMembers_of_ordered rest ordered.2]

end

theorem canonical_canonical (value : Value) : canonical (canonical value) = canonical value :=
  canonical_of_ordered _ (ordered_canonical value)

mutual

/-- The keys of all objects in a value. -/
def allKeys : Value → List String
  | .list items => itemKeys items
  | .object members => memberKeys members
  | .null | .bool _ | .number _ | .string _ => []

def itemKeys : List Value → List String
  | [] => []
  | item :: rest => allKeys item ++ itemKeys rest

def memberKeys : List (String × Value) → List String
  | [] => []
  | (key, value) :: rest => key :: allKeys value ++ memberKeys rest

end

theorem mem_memberKeys {key : String} {members : List (String × Value)} :
    key ∈ memberKeys members ↔ ∃ member ∈ members, key = member.1 ∨ key ∈ allKeys member.2 := by
  induction members with
  | nil => simp [memberKeys]
  | cons member members ih => simp [memberKeys,ih,or_assoc]

mutual

/-- The canonical form has no other keys. -/
theorem allKeys_canonical : (value : Value) → allKeys (canonical value) ⊆ allKeys value
  | .list items => itemKeys_canonical items
  | .object members => fun key present => by
    obtain ⟨member,among,has⟩ := mem_memberKeys.mp present
    exact memberKeys_canonical members (mem_memberKeys.mpr ⟨member,Members.mem_ofList among,has⟩)
  | .null | .bool _ | .number _ | .string _ => List.Subset.refl _

theorem itemKeys_canonical :
    (items : List Value) → itemKeys (canonicalItems items) ⊆ itemKeys items
  | [] => List.Subset.refl _
  | item :: rest => List.append_subset.mpr
    ⟨List.subset_append_of_subset_left _ (allKeys_canonical item),
      List.subset_append_of_subset_right _ (itemKeys_canonical rest)⟩

theorem memberKeys_canonical : (members : List (String × Value)) →
    memberKeys (canonicalMembers members) ⊆ memberKeys members
  | [] => List.Subset.refl _
  | (_, value) :: rest => List.cons_subset_cons _ (List.append_subset.mpr
    ⟨List.subset_append_of_subset_left _ (allKeys_canonical value),
      List.subset_append_of_subset_right _ (memberKeys_canonical rest)⟩)

end

end LedgerRehearsal.Json
