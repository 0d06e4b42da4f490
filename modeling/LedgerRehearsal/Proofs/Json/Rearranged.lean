import LedgerRehearsal.Proofs.Json.Members
import LedgerRehearsal.Proofs.Json.Reading
import LedgerRehearsal.Proofs.Text.ByteOrder

/-! Members in any order. A value whose objects have distinct keys has one canonical form with every
value made of it by moving members about, at all levels at once, because members in order are
determined by what they are. Inserting members one by one is how the canonical form is made. -/
namespace LedgerRehearsal.Json

namespace Members

variable {key : String} {value : Value} {members others : Members}

theorem perm_insert (absent : key ∉ members.keys) :
    (insert key value members).Perm ((key,value) :: members) := by
  induction members with
  | nil => exact List.Perm.refl _
  | cons head rest ih =>
    rw [keys,List.map_cons,List.mem_cons,not_or] at absent
    rw [insert,if_neg absent.1]
    split
    · exact List.Perm.refl _
    · exact ((ih absent.2).cons head).trans (List.Perm.swap _ _ rest)

theorem perm_ofList (distinct : members.keys.Nodup) : (ofList members).Perm members := by
  induction members using List.reverseRecOn with
  | nil => exact List.Perm.refl _
  | append_singleton members member ih =>
    rw [keys,List.map_append] at distinct
    obtain ⟨earlier,-,apart⟩ := List.nodup_append.mp distinct
    have absent : member.1 ∉ (ofList members).keys := fun present =>
      apart _ (((ih earlier).map _).mem_iff.mp present) _ List.mem_cons_self rfl
    rw [ofList_append]
    exact (perm_insert absent).trans
      (((ih earlier).cons member).trans (List.perm_append_singleton member members).symm)

theorem ascending_unique (first : Ascending members) (second : Ascending others)
    (same : members.Perm others) : members = others := by
  rw [Ascending,keys,List.pairwise_map] at first second
  exact same.eq_of_pairwise (fun _ _ _ _ before after => absurd after (String.lt_asymm before))
    first second

/-- Where each key has one member, the order of insertion does not matter. -/
theorem ofList_of_perm (distinct : members.keys.Nodup) (same : members.Perm others) :
    ofList members = ofList others := by
  have distinct' : others.keys.Nodup := (same.map _).nodup_iff.mp distinct
  refine ascending_unique (ascending_ofList members) (ascending_ofList others) ?_
  exact (perm_ofList distinct).trans (same.trans (perm_ofList distinct').symm)

end Members

mutual

/-- A law that the members of every object in a value keep. -/
def InObjects (law : Members → Prop) : Value → Prop
  | .list items => InItems law items
  | .object members => law members ∧ InMembers law members
  | .null | .bool _ | .number _ | .string _ => True

def InItems (law : Members → Prop) : List Value → Prop
  | [] => True
  | item :: rest => InObjects law item ∧ InItems law rest

def InMembers (law : Members → Prop) : List (String × Value) → Prop
  | [] => True
  | (_, value) :: rest => InObjects law value ∧ InMembers law rest

end

/-- No object has two members of one key. -/
def Distinct : Value → Prop := InObjects fun members => members.keys.Nodup

/-- The keys of each object stand in strictly increasing order of their bytes. -/
def ByteOrdered : Value → Prop := InObjects fun members =>
  members.keys.Pairwise fun first second => Text.bytes first < Text.bytes second

variable {law : Members → Prop}

mutual

theorem inObjects_of_ordered (kept : ∀ members, Members.Ascending members → law members) :
    (value : Value) → Ordered value → InObjects law value
  | .list items, ordered => inItems_of_ordered kept items ordered
  | .object members, ordered =>
    ⟨kept members ordered.1,inMembers_of_ordered kept members ordered.2⟩
  | .null, _ | .bool _, _ | .number _, _ | .string _, _ => trivial

theorem inItems_of_ordered (kept : ∀ members, Members.Ascending members → law members) :
    (items : List Value) → OrderedItems items → InItems law items
  | [], _ => trivial
  | item :: rest, ordered => ⟨inObjects_of_ordered kept item ordered.1,
      inItems_of_ordered kept rest ordered.2⟩

theorem inMembers_of_ordered (kept : ∀ members, Members.Ascending members → law members) :
    (members : List (String × Value)) → OrderedMembers members → InMembers law members
  | [], _ => trivial
  | (_, value) :: rest, ordered => ⟨inObjects_of_ordered kept value ordered.1,
      inMembers_of_ordered kept rest ordered.2⟩

end

theorem distinct_of_ordered {value : Value} (ordered : Ordered value) : Distinct value :=
  inObjects_of_ordered (fun _ ascending => ascending.imp Std.ne_of_lt) value ordered

/-- Reading keeps the last of several members of one key, so no value that was read has two. -/
theorem distinct_of_parse {text : String} {value : Value} (read : parse text = some value) :
    Distinct value := distinct_of_ordered (parse_readable read).ordered

theorem byteOrdered_canonical (value : Value) : ByteOrdered (canonical value) :=
  inObjects_of_ordered (fun _ ascending => ascending.imp Text.lt_iff_bytes_lt.mp) _
    (ordered_canonical value)

mutual

/-- The other value is made of the first one by moving the members of objects about. -/
inductive Rearranged : Value → Value → Prop where
  | null : Rearranged .null .null
  | bool (b : Bool) : Rearranged (.bool b) (.bool b)
  | number (n : Number) : Rearranged (.number n) (.number n)
  | string (s : String) : Rearranged (.string s) (.string s)
  | list {items others : List Value} :
      RearrangedItems items others → Rearranged (.list items) (.list others)
  | object {members inside others : List (String × Value)} :
      RearrangedMembers members inside → inside.Perm others →
      Rearranged (.object members) (.object others)

inductive RearrangedItems : List Value → List Value → Prop where
  | nil : RearrangedItems [] []
  | cons {item other : Value} {rest others : List Value} :
      Rearranged item other → RearrangedItems rest others →
      RearrangedItems (item :: rest) (other :: others)

/-- The members themselves stay where they are. -/
inductive RearrangedMembers : List (String × Value) → List (String × Value) → Prop where
  | nil : RearrangedMembers [] []
  | cons (key : String) {value other : Value} {rest others : List (String × Value)} :
      Rearranged value other → RearrangedMembers rest others →
      RearrangedMembers ((key,value) :: rest) ((key,other) :: others)

end

theorem canonicalMembers_eq_map (members : Members) :
    canonicalMembers members = members.map (Prod.map id canonical) := by
  induction members with
  | nil => rfl
  | cons member members ih => exact congrArg ((member.1,canonical member.2) :: ·) ih

theorem keys_canonicalMembers (members : Members) :
    Members.keys (canonicalMembers members) = members.keys := by
  rw [canonicalMembers_eq_map,Members.keys,List.map_map]
  rfl

mutual

/-- The canonical form does not depend on the order of the members. -/
theorem Rearranged.canonical_eq : {first second : Value} → Rearranged first second →
    Distinct first → canonical first = canonical second
  | _, _, .null, _ | _, _, .bool _, _ | _, _, .number _, _ | _, _, .string _, _ => rfl
  | _, _, .list within, distinct => congrArg Value.list (within.canonical_eq distinct)
  | .object members, .object others, .object within moved, distinct => by
    have moved' : (canonicalMembers members).Perm (canonicalMembers others) := by
      rw [within.canonical_eq distinct.2,canonicalMembers_eq_map,canonicalMembers_eq_map]
      exact moved.map _
    have distinct' : (Members.keys (canonicalMembers members)).Nodup :=
      (keys_canonicalMembers members).symm ▸ distinct.1
    exact congrArg Value.object (Members.ofList_of_perm distinct' moved')

theorem RearrangedItems.canonical_eq : {items others : List Value} →
    RearrangedItems items others → InItems (·.keys.Nodup) items →
    canonicalItems items = canonicalItems others
  | _, _, .nil, _ => rfl
  | _, _, .cons first rest, distinct =>
    congrArg₂ List.cons (first.canonical_eq distinct.1) (rest.canonical_eq distinct.2)

theorem RearrangedMembers.canonical_eq : {members inside : List (String × Value)} →
    RearrangedMembers members inside → InMembers (·.keys.Nodup) members →
    canonicalMembers members = canonicalMembers inside
  | _, _, .nil, _ => rfl
  | _, _, .cons key first rest, distinct =>
    congrArg₂ List.cons (congrArg (Prod.mk key) (first.canonical_eq distinct.1))
      (rest.canonical_eq distinct.2)

end

mutual

/-- The canonical form has all that the value has, and the items of lists in their order. -/
theorem rearranged_canonical :
    (value : Value) → Distinct value → Rearranged value (canonical value)
  | .list items, distinct => .list (rearrangedItems_canonical items distinct)
  | .object members, distinct => by
    refine .object (rearrangedMembers_canonical members distinct.2) (Members.perm_ofList ?_).symm
    rw [keys_canonicalMembers]
    exact distinct.1
  | .null, _ => .null
  | .bool b, _ => .bool b
  | .number n, _ => .number n
  | .string s, _ => .string s

theorem rearrangedItems_canonical : (items : List Value) → InItems (·.keys.Nodup) items →
    RearrangedItems items (canonicalItems items)
  | [], _ => .nil
  | item :: rest, distinct =>
    .cons (rearranged_canonical item distinct.1) (rearrangedItems_canonical rest distinct.2)

theorem rearrangedMembers_canonical : (members : List (String × Value)) →
    InMembers (·.keys.Nodup) members → RearrangedMembers members (canonicalMembers members)
  | [], _ => .nil
  | (key, value) :: rest, distinct =>
    .cons key (rearranged_canonical value distinct.1) (rearrangedMembers_canonical rest distinct.2)

end

mutual

/-- The value as it is put together from its parts: the members of each object are inserted into an
empty one as they come. -/
def assembled : Value → Value
  | .list items => .list (assembledItems items)
  | .object members => .object (assembledMembers [] members)
  | .null => .null
  | .bool b => .bool b
  | .number n => .number n
  | .string s => .string s

def assembledItems : List Value → List Value
  | [] => []
  | item :: rest => assembled item :: assembledItems rest

/-- Inserts further members into those that are there. -/
def assembledMembers (present : Members) : List (String × Value) → Members
  | [] => present
  | (key, value) :: rest => assembledMembers (present.insert key (assembled value)) rest

end

mutual

theorem assembled_eq_canonical : (value : Value) → assembled value = canonical value
  | .list items => congrArg Value.list (assembledItems_eq_canonical items)
  | .object members => congrArg Value.object (assembledMembers_eq_foldl members [])
  | .null | .bool _ | .number _ | .string _ => rfl

theorem assembledItems_eq_canonical :
    (items : List Value) → assembledItems items = canonicalItems items
  | [] => rfl
  | item :: rest =>
    congrArg₂ List.cons (assembled_eq_canonical item) (assembledItems_eq_canonical rest)

theorem assembledMembers_eq_foldl : (members : List (String × Value)) → (present : Members) →
    assembledMembers present members =
      (canonicalMembers members).foldl (fun members pair => members.insert pair.1 pair.2) present
  | [], _ => rfl
  | (key, value) :: rest, present => by
    rw [assembledMembers,assembled_eq_canonical value,assembledMembers_eq_foldl rest,
      canonicalMembers,List.foldl_cons]

end

end LedgerRehearsal.Json
