import LedgerRehearsal.Json.Shape
import LedgerRehearsal.Proofs.Result

/-! Typed data and the values that it is read from. -/
namespace LedgerRehearsal.Json.Shape

variable {α : Type} {item : Value → Except String α} {value : Value}

theorem string_eq_ok {text : String} : string value = .ok text ↔ value = .string text := by
  cases value <;> simp [string]

theorem list_eq_ok {values : List α} : list item value = .ok values ↔ ∃ items,
    value = .list items ∧ List.Forall₂ (fun part value => item part = .ok value) items values := by
  cases value with
  | list items => simp [list,Except.mapM_eq_ok]
  | null | bool | number | string | object => simp [list]

theorem map_eq_ok {values : List (String × α)} : map item value = .ok values ↔ ∃ members,
    value = .object members ∧ List.Forall₂ (fun member value => member.1 = value.1 ∧
      item member.2 = .ok value.2) members values := by
  cases value with
  | object members =>
    simp only [map,Except.mapM_eq_ok,Except.map_eq_ok,Value.object.injEq,exists_eq_left']
    refine iff_of_eq (congrArg (List.Forall₂ · members values) ?_)
    funext member value
    obtain ⟨key,part⟩ := value
    simp [eq_comm,and_comm]
  | null | bool | number | string | list => simp [map]

/-- The texts that are read are those that are written. -/
theorem list_string_eq_ok {texts : List String} :
    list string value = .ok texts ↔ value = .ofStrings texts := by
  simp only [list_eq_ok,string_eq_ok,Value.ofStrings]
  constructor
  · rintro ⟨items,rfl,each⟩
    rw [← List.forall₂_map_right_iff,List.forall₂_eq_eq_eq] at each
    rw [each]
  · rintro rfl
    exact ⟨_,rfl,List.forall₂_map_left_iff.mpr (List.forall₂_same.mpr fun _ _ => rfl)⟩

theorem map_strings_eq_ok {values : List (String × List String)} :
    map (list string) value = .ok values ↔
      value = .object (values.map fun value => (value.1,.ofStrings value.2)) := by
  simp only [map_eq_ok,list_string_eq_ok,← Prod.ext_iff (y := (_,_))]
  constructor
  · rintro ⟨members,rfl,each⟩
    rw [← List.forall₂_map_right_iff,List.forall₂_eq_eq_eq] at each
    rw [each]
  · rintro rfl
    exact ⟨_,rfl,List.forall₂_map_left_iff.mpr (List.forall₂_same.mpr fun _ _ => rfl)⟩

end LedgerRehearsal.Json.Shape
