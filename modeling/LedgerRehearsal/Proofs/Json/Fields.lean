import LedgerRehearsal.Proofs.Json.Rearranged

/-! Objects by their fields. Members in order are determined by what is found under each key. Going
through them one by one is therefore going through the fields that are known, in the order of their
names, when the others are passed over. -/
namespace LedgerRehearsal.Json.Members

variable {key : String} {value : Value} {members others : Members} {names : List String}

theorem mem_iff_get? (ascending : Ascending members) :
    (key,value) ∈ members ↔ get? key members = some value := by
  refine ⟨fun present => ?_,mem_of_get?⟩
  obtain ⟨before,after,rfl⟩ := List.append_of_mem present
  have absent := absent_of_ascending ascending
  rw [keys,List.map_append,List.mem_append,not_or] at absent
  have passed : get? key before = none := get?_eq_none_iff.mpr absent.1
  clear present ascending absent
  induction before with
  | nil => exact if_pos rfl
  | cons head before ih =>
    rw [get?_cons] at passed
    split at passed
    · contradiction
    · rename_i different
      rw [List.cons_append,get?_cons,if_neg different]
      exact ih passed

theorem nodup_of_ascending (ascending : Ascending members) : members.Nodup := by
  refine (List.pairwise_map.mp ascending).imp ?_
  rintro member _ less rfl
  exact String.lt_irrefl _ less

/-- Members in order are determined by what they are. -/
theorem eq_of_mem_iff (first : Ascending members) (second : Ascending others)
    (same : ∀ member, member ∈ members ↔ member ∈ others) : members = others :=
  ascending_unique first second <|
    (List.perm_ext_iff_of_nodup (nodup_of_ascending first) (nodup_of_ascending second)).mpr same

theorem eq_of_get? (first : Ascending members) (second : Ascending others)
    (same : ∀ key, get? key members = get? key others) : members = others :=
  eq_of_mem_iff first second fun (key,value) => by
    rw [mem_iff_get? first,mem_iff_get? second,same]

/-- The members of the given names, in the order of the names. -/
def fields (names : List String) (members : Members) : Members :=
  names.filterMap fun name => (get? name members).map (Prod.mk name)

theorem mem_fields : (key,value) ∈ fields names members ↔
    key ∈ names ∧ get? key members = some value := by
  simp [fields]

theorem ascending_fields (ordered : names.Pairwise (· < ·)) : Ascending (fields names members) := by
  rw [Ascending,keys,List.pairwise_map]
  refine List.Pairwise.filterMap _ (fun before after less => ?_) ordered
  rintro _ named _ named'
  obtain ⟨_,-,rfl⟩ := Option.map_eq_some_iff.mp named
  obtain ⟨_,-,rfl⟩ := Option.map_eq_some_iff.mp named'
  exact less

theorem filter_eq_fields (ascending : Ascending members) (ordered : names.Pairwise (· < ·)) :
    members.filter (fun member => member.1 ∈ names) = fields names members := by
  have kept : Ascending (members.filter fun member => member.1 ∈ names) :=
    List.Pairwise.sublist (List.filter_sublist.map _) ascending
  refine eq_of_mem_iff kept (ascending_fields ordered) fun (key,value) => ?_
  rw [List.mem_filter,mem_fields,mem_iff_get? ascending,decide_eq_true_iff,and_comm]

/-- Members of no other names are their fields. -/
theorem eq_fields (ascending : Ascending members) (ordered : names.Pairwise (· < ·))
    (known : ∀ name ∈ keys members, name ∈ names) : members = fields names members := by
  rw [← filter_eq_fields ascending ordered,List.filter_eq_self.mpr]
  exact fun member present => decide_eq_true (known _ (List.mem_map_of_mem present))

section

variable {change : String × Value → String × Value}

theorem get?_map (keeps : ∀ member, (change member).1 = member.1) :
    get? key (members.map change) =
      (get? key members).map fun value => (change (key,value)).2 := by
  induction members with
  | nil => rfl
  | cons member members ih =>
    rw [List.map_cons,get?_cons,get?_cons,keeps,ih]
    split
    · rename_i same
      subst same
      rfl
    · rfl

theorem ascending_map (keeps : ∀ member, (change member).1 = member.1)
    (ascending : Ascending members) : Ascending (members.map change) := by
  rw [Ascending,keys,List.map_map]
  rwa [Ascending,keys,← List.map_congr_left fun member _ => keeps member] at ascending

end

section

variable {ε σ : Type} {visit : σ → String × Value → Except ε σ}

theorem foldlM_filter (passed : ∀ member : String × Value, member.1 ∉ names → ∀ state,
    visit state member = .ok state) (members : Members) (state : σ) :
    (members.filter fun member => member.1 ∈ names).foldlM visit state =
      members.foldlM visit state := by
  induction members generalizing state with
  | nil => rfl
  | cons member members ih =>
    rw [List.foldlM_cons,List.filter_cons]
    split
    · rw [List.foldlM_cons]
      exact congrArg _ (funext fun state => ih state)
    · rename_i other
      rw [passed member (by simpa using other),ih]
      rfl

/-- Only the known fields of members in order are visited, in the order of their names. -/
theorem foldlM_eq_fields (ascending : Ascending members) (ordered : names.Pairwise (· < ·))
    (passed : ∀ member : String × Value, member.1 ∉ names → ∀ state,
      visit state member = .ok state) (state : σ) :
    members.foldlM visit state = (fields names members).foldlM visit state := by
  rw [← filter_eq_fields ascending ordered,foldlM_filter passed]

/-- The first field is read on its own, if it is given. What is seen after it depends on what was
read of it. -/
theorem foldlM_fields_cons {α : Type} {name : String} (seen : Option α → σ)
    (read : Value → Except ε α) (visited : ∀ value,
      visit (seen none) (name,value) = (read value).map fun found => seen (some found)) :
    (fields (name :: names) members).foldlM visit (seen none) =
      (get? name members).mapM read >>= fun found? =>
        (fields names members).foldlM visit (seen found?) := by
  rw [fields,List.filterMap_cons]
  cases get? name members with
  | none => rfl
  | some value =>
    change visit (seen none) (name,value) >>= _ = (read value).map some >>= _
    rw [visited]
    cases read value <;> rfl

end

end LedgerRehearsal.Json.Members
