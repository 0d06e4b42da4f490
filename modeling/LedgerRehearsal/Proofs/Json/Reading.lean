import LedgerRehearsal.Proofs.Json.Numeral
import LedgerRehearsal.Proofs.Json.Ordered

/-! What a reader gives. A value that was read has its members in order, no more containers inside
each other than the reader goes into, and integers that fit. -/
namespace LedgerRehearsal.Json

mutual

/-- How many containers stand inside each other. -/
def nesting : Value → Nat
  | .list items => itemsNesting items + 1
  | .object members => membersNesting members + 1
  | .null | .bool _ | .number _ | .string _ => 0

def itemsNesting : List Value → Nat
  | [] => 0
  | item :: rest => max (nesting item) (itemsNesting rest)

def membersNesting : List (String × Value) → Nat
  | [] => 0
  | (_, value) :: rest => max (nesting value) (membersNesting rest)

end

mutual

/-- The numbers in a value. -/
def numbers : Value → List Number
  | .number n => [n]
  | .list items => itemNumbers items
  | .object members => memberNumbers members
  | .null | .bool _ | .string _ => []

def itemNumbers : List Value → List Number
  | [] => []
  | item :: rest => numbers item ++ itemNumbers rest

def memberNumbers : List (String × Value) → List Number
  | [] => []
  | (_, value) :: rest => numbers value ++ memberNumbers rest

end

theorem orderedItems_iff {items : List Value} :
    OrderedItems items ↔ ∀ item ∈ items, Ordered item := by
  induction items with
  | nil => simp [OrderedItems]
  | cons item items ih => simp [OrderedItems,ih]

theorem itemsNesting_le_iff {items : List Value} {depth : Nat} :
    itemsNesting items ≤ depth ↔ ∀ item ∈ items, nesting item ≤ depth := by
  induction items with
  | nil => simp [itemsNesting]
  | cons item items ih => simp only [itemsNesting,ih,Nat.max_le,List.forall_mem_cons]

theorem membersNesting_le_iff {members : List (String × Value)} {depth : Nat} :
    membersNesting members ≤ depth ↔ ∀ member ∈ members, nesting member.2 ≤ depth := by
  induction members with
  | nil => simp [membersNesting]
  | cons member members ih => simp only [membersNesting,ih,Nat.max_le,List.forall_mem_cons]

theorem mem_itemNumbers {items : List Value} {n : Number} :
    n ∈ itemNumbers items ↔ ∃ item ∈ items, n ∈ numbers item := by
  induction items with
  | nil => simp [itemNumbers]
  | cons item items ih => simp [itemNumbers,ih]

theorem mem_memberNumbers {members : List (String × Value)} {n : Number} :
    n ∈ memberNumbers members ↔ ∃ member ∈ members, n ∈ numbers member.2 := by
  induction members with
  | nil => simp [memberNumbers]
  | cons member members ih =>
    simp only [memberNumbers,List.mem_append,ih,List.mem_cons,exists_eq_or_imp]

/-- A value that a reader of a depth can give, with numbers of a kind. -/
structure Readable (kind : Number → Prop) (depth : Nat) (value : Value) : Prop where
  ordered : Ordered value
  shallow : nesting value ≤ depth
  numbers : ∀ n ∈ numbers value, kind n

section

variable {kind : Number → Prop} {depth : Nat}

theorem readable_list {items : List Value} :
    Readable kind (depth + 1) (.list items) ↔ ∀ item ∈ items, Readable kind depth item := by
  constructor
  · intro ⟨ordered,shallow,all⟩ item member
    refine ⟨orderedItems_iff.mp ordered item member,?_,fun n inside => ?_⟩
    · exact itemsNesting_le_iff.mp (Nat.le_of_succ_le_succ shallow) item member
    · exact all n (mem_itemNumbers.mpr ⟨item,member,inside⟩)
  · intro each
    refine ⟨orderedItems_iff.mpr fun item member => (each item member).ordered,?_,
      fun n inside => ?_⟩
    · exact Nat.succ_le_succ (itemsNesting_le_iff.mpr fun item member => (each item member).shallow)
    · obtain ⟨item,member,inside⟩ := mem_itemNumbers.mp inside
      exact (each item member).numbers n inside

theorem readable_object {members : List (String × Value)} :
    Readable kind (depth + 1) (.object members) ↔
      Members.Ascending members ∧ ∀ member ∈ members, Readable kind depth member.2 := by
  constructor
  · intro ⟨ordered,shallow,all⟩
    refine ⟨ordered.1,fun member present => ⟨orderedMembers_iff.mp ordered.2 member present,?_,?_⟩⟩
    · exact membersNesting_le_iff.mp (Nat.le_of_succ_le_succ shallow) member present
    · intro n inside
      exact all n (mem_memberNumbers.mpr ⟨member,present,inside⟩)
  · intro ⟨ascending,each⟩
    refine ⟨⟨ascending,orderedMembers_iff.mpr fun member present => (each member present).ordered⟩,
      ?_,fun n inside => ?_⟩
    · exact Nat.succ_le_succ <|
        membersNesting_le_iff.mpr fun member present => (each member present).shallow
    · obtain ⟨member,present,inside⟩ := mem_memberNumbers.mp inside
      exact (each member present).numbers n inside

theorem readable_string (text : String) : Readable kind depth (.string text) :=
  ⟨trivial,Nat.zero_le _,nofun⟩

end

section

variable {item : Reader Value} {motive : Value → Prop}
  (each : ∀ cs value rest, item cs = some (value,rest) → motive value)

include each

theorem readItems_all {fuel : Nat} {cs rest : List Char} {items : List Value}
    (read : readItems item fuel cs = some (items,rest)) : ∀ value ∈ items, motive value := by
  induction fuel generalizing cs items with
  | zero => contradiction
  | succ fuel ih =>
    obtain ⟨⟨value,behind⟩,first,read⟩ := Option.bind_eq_some_iff.mp read
    have head := each cs value behind first
    dsimp only at read
    split at read
    · obtain ⟨⟨others,_⟩,later,same⟩ := Option.map_eq_some_iff.mp read
      cases same
      exact List.forall_mem_cons.mpr ⟨head,ih later⟩
    · cases read
      exact List.forall_mem_singleton.mpr head
    · contradiction

theorem readMembers_all {fuel : Nat} {cs rest : List Char} {members : List (String × Value)}
    (read : readMembers item fuel cs = some (members,rest)) :
    ∀ member ∈ members, motive member.2 := by
  induction fuel generalizing cs members with
  | zero => contradiction
  | succ fuel ih =>
    obtain ⟨⟨key,behind⟩,-,read⟩ := Option.bind_eq_some_iff.mp read
    obtain ⟨⟨value,after⟩,first,read⟩ := Option.bind_eq_some_iff.mp read
    have head := each behind value after first
    dsimp only at read
    split at read
    · obtain ⟨⟨others,_⟩,later,same⟩ := Option.map_eq_some_iff.mp read
      cases same
      exact List.forall_mem_cons.mpr ⟨head,ih later⟩
    · cases read
      exact List.forall_mem_singleton.mpr head
    · contradiction

end

theorem readNumber_fits {cs rest : List Char} {number : Number}
    (read : readNumber cs = some (number,rest)) : number.Fits := by
  obtain ⟨_,-,read⟩ := Option.bind_eq_some_iff.mp read
  obtain ⟨_,-,read⟩ := Option.bind_eq_some_iff.mp read
  obtain ⟨_,-,read⟩ := Option.bind_eq_some_iff.mp read
  obtain ⟨_,parts,same⟩ := Option.bind_eq_some_iff.mp read
  cases same
  exact fits_ofParts parts

theorem readWord_value {word cs rest : List Char} {value given : Value}
    (read : readWord word value cs = some (given,rest)) : given = value := by
  unfold readWord at read
  split at read
  · cases read
    rfl
  · contradiction

/-- What was read has no parts and is readable at any depth, or its parts were read one level further
in. -/
theorem readValue_cases {depth : Nat} {cs rest : List Char} {value : Value}
    (read : readValue depth cs = some (value,rest)) :
    Readable Number.Fits depth value ∨
      (∃ inner items, depth = inner + 1 ∧ value = .list items ∧
        ∀ item ∈ items, ∃ cs rest, readValue inner cs = some (item,rest)) ∨
      ∃ inner members, depth = inner + 1 ∧ value = .ofMembers members ∧
        ∀ member ∈ members, ∃ cs rest, readValue inner cs = some (member.2,rest) := by
  have scalar (given : Value) (ordered : Ordered given) (flat : nesting given = 0)
      (all : ∀ n ∈ numbers given, n.Fits) : Readable Number.Fits depth given :=
    ⟨ordered,flat ▸ Nat.zero_le _,all⟩
  have witnessed {inner : Nat} (cs : List Char) (part : Value) (rest : List Char)
      (given : readValue inner cs = some (part,rest)) :
      ∃ cs rest, readValue inner cs = some (part,rest) := ⟨cs,rest,given⟩
  unfold readValue at read
  split at read
  · exact .inl (readWord_value read ▸ scalar .null trivial rfl nofun)
  · exact .inl (readWord_value read ▸ scalar (.bool true) trivial rfl nofun)
  · exact .inl (readWord_value read ▸ scalar (.bool false) trivial rfl nofun)
  · obtain ⟨_,-,same⟩ := Option.map_eq_some_iff.mp read
    cases same
    exact .inl (readable_string _)
  · split at read
    · contradiction
    · rename_i inner
      refine .inr (.inl ⟨inner,?_⟩)
      dsimp only at read
      split at read
      · cases read
        exact ⟨[],rfl,rfl,nofun⟩
      · obtain ⟨⟨items,_⟩,found,same⟩ := Option.map_eq_some_iff.mp read
        cases same
        exact ⟨items,rfl,rfl,readItems_all witnessed found⟩
  · split at read
    · contradiction
    · rename_i inner
      refine .inr (.inr ⟨inner,?_⟩)
      dsimp only at read
      split at read
      · cases read
        exact ⟨[],rfl,rfl,nofun⟩
      · obtain ⟨⟨members,_⟩,found,same⟩ := Option.map_eq_some_iff.mp read
        cases same
        exact ⟨members,rfl,rfl,readMembers_all witnessed found⟩
  · obtain ⟨⟨number,_⟩,found,same⟩ := Option.map_eq_some_iff.mp read
    cases same
    exact .inl (scalar (.number number) trivial rfl
      (List.forall_mem_singleton.mpr (readNumber_fits found)))

theorem readValue_readable {depth : Nat} {cs rest : List Char} {value : Value}
    (read : readValue depth cs = some (value,rest)) : Readable Number.Fits depth value := by
  induction depth using Nat.strongRecOn generalizing cs rest value with
  | ind depth ih =>
    rcases readValue_cases read with
      scalar | ⟨inner,items,rfl,rfl,each⟩ | ⟨inner,members,rfl,rfl,each⟩
    · exact scalar
    · refine readable_list.mpr fun item member => ?_
      obtain ⟨_,_,given⟩ := each item member
      exact ih inner (Nat.lt_succ_self inner) given
    · refine readable_object.mpr ⟨Members.ascending_ofList members,fun member present => ?_⟩
      obtain ⟨_,_,given⟩ := each member (Members.mem_ofList present)
      exact ih inner (Nat.lt_succ_self inner) given

theorem parse_readable {text : String} {value : Value} (read : parse text = some value) :
    Readable Number.Fits maxDepth value := by
  unfold parse at read
  split at read
  · rename_i given rest found
    split at read
    · cases read
      exact readValue_readable found
    · contradiction
  · contradiction

end LedgerRehearsal.Json
