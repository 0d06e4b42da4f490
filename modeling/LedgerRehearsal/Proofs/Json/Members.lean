import LedgerRehearsal.Proofs.Json.Ordered

/-! Members by their keys. What is found under a key changes only by an insertion or an erasure of
that key, and members in order are as before when one of them is taken out and put in again. -/
namespace LedgerRehearsal.Json.Members

variable {key other : String} {value : Value} {members : Members}

theorem get?_cons {head : String × Value} {rest : Members} :
    get? key (head :: rest) = if head.1 = key then some head.2 else get? key rest := rfl

theorem erase_cons {head : String × Value} {rest : Members} :
    erase key (head :: rest) =
      if head.1 = key then erase key rest else head :: erase key rest := by
  rw [erase,List.filter_cons]
  by_cases same : head.1 = key <;> simp [erase,same]

theorem get?_insert :
    get? other (insert key value members) =
      if other = key then some value else get? other members := by
  induction members with
  | nil => simp [insert,get?,eq_comm]
  | cons head rest ih =>
    unfold insert
    split
    · rename_i same
      by_cases found : other = key
      · simp [get?_cons,found]
      · simp [get?_cons,found,Ne.symm found,← same]
    · rename_i different
      split
      · simp [get?_cons,eq_comm]
      · by_cases found : other = key
        · subst found
          simp [get?_cons,ih,Ne.symm different]
        · simp [get?_cons,ih,found]

theorem get?_erase :
    get? other (erase key members) = if other = key then none else get? other members := by
  induction members with
  | nil => simp [erase,get?]
  | cons head rest ih =>
    rw [erase_cons]
    by_cases same : head.1 = key
    · by_cases found : other = key
      · simpa [same,found] using ih
      · simp [same,found,Ne.symm found,ih,get?_cons]
    · by_cases found : other = key
      · subst found
        simp [same,ih,get?_cons]
      · simp [same,found,ih,get?_cons]

theorem get?_eq_none_iff : get? key members = none ↔ key ∉ members.keys := by
  induction members with
  | nil => simp [get?,keys]
  | cons head rest ih =>
    rw [get?_cons,keys,List.map_cons,List.mem_cons,not_or,← keys,← ih]
    by_cases same : head.1 = key
    · simp [same]
    · simp [same,Ne.symm same]

theorem mem_keys_iff : key ∈ members.keys ↔ ∃ value, get? key members = some value := by
  rw [← not_iff_not,← get?_eq_none_iff,Option.eq_none_iff_forall_ne_some,not_exists]

theorem mem_of_get? (found : get? key members = some value) : (key,value) ∈ members := by
  induction members with
  | nil => contradiction
  | cons head rest ih =>
    rw [get?_cons] at found
    split at found
    · rename_i same
      cases found
      exact same ▸ List.mem_cons_self
    · exact List.mem_cons_of_mem _ (ih found)

theorem erase_of_absent (absent : get? key members = none) : erase key members = members := by
  rw [get?_eq_none_iff] at absent
  refine List.filter_eq_self.mpr fun member present => decide_eq_true ?_
  exact fun same => absent (same ▸ List.mem_map_of_mem present)

theorem erase_erase : erase key (erase key members) = erase key members :=
  erase_of_absent (by rw [get?_erase,if_pos rfl])

theorem absent_of_ascending {before after : Members}
    (ascending : Ascending (before ++ (key,value) :: after)) : key ∉ keys (before ++ after) := by
  rw [Ascending,keys,List.map_append,List.map_cons,List.pairwise_append,List.pairwise_cons]
    at ascending
  obtain ⟨-,⟨later,-⟩,earlier⟩ := ascending
  rw [keys,List.map_append,List.mem_append]
  rintro (among | among)
  · exact String.lt_irrefl _ (earlier key among key List.mem_cons_self)
  · exact String.lt_irrefl _ (later key among)

theorem erase_between {before after : Members} (absent : key ∉ keys (before ++ after)) :
    erase key (before ++ (key,value) :: after) = before ++ after := by
  calc erase key (before ++ (key,value) :: after)
    _ = erase key (before ++ after) := by simp [erase]
    _ = before ++ after := erase_of_absent (get?_eq_none_iff.mpr absent)

theorem mem_of_mem_erase {member : String × Value} (present : member ∈ erase key members) :
    member ∈ members := (List.mem_filter.mp present).1

theorem ascending_erase (ascending : Ascending members) : Ascending (erase key members) :=
  List.Pairwise.sublist (List.filter_sublist.map _) ascending

theorem erase_insert (absent : get? key members = none) :
    erase key (insert key value members) = members := by
  induction members with
  | nil => simp [insert,erase]
  | cons head rest ih =>
    rw [get?_cons] at absent
    split at absent
    · contradiction
    · rename_i different
      rw [insert,if_neg (Ne.symm different)]
      split
      · simp [erase_cons,different,erase_of_absent absent]
      · simp [erase_cons,different,ih absent]

theorem insert_erase (ascending : Ascending members) (found : get? key members = some value) :
    insert key value (erase key members) = members := by
  induction members with
  | nil => contradiction
  | cons head rest ih =>
    obtain ⟨first,later⟩ := ascending_cons.mp ascending
    rw [get?_cons] at found
    rw [erase_cons]
    by_cases same : head.1 = key
    · rw [if_pos same] at found ⊢
      obtain rfl := Option.some.inj found
      have absent : get? key rest = none := by
        refine get?_eq_none_iff.mpr fun present => ?_
        obtain ⟨member,among,again⟩ := List.mem_map.mp present
        exact String.lt_irrefl _ (again ▸ same ▸ first member among)
      rw [erase_of_absent absent]
      subst same
      cases rest with
      | nil => rfl
      | cons next rest =>
        have before := first next List.mem_cons_self
        rw [insert,if_neg (Std.ne_of_lt before),if_pos before]
    · rw [if_neg same] at found ⊢
      have before : head.1 < key := first (key,value) (mem_of_get? found)
      rw [insert,if_neg (Ne.symm same),if_neg (String.lt_asymm before),ih later found]

end LedgerRehearsal.Json.Members
