import Mathlib.Data.List.Forall2

/-! Results that may be failures. One that is put together from others is a value only when all of
them are. -/
namespace LedgerRehearsal

namespace Except

variable {ε δ α β : Type}

theorem bind_eq_ok {first : Except ε α} {next : α → Except ε β} {result : β} :
    (first >>= next) = .ok result ↔ ∃ value, first = .ok value ∧ next value = .ok result := by
  cases first <;> simp [bind,Except.bind]

theorem map_eq_ok {f : α → β} {result : Except ε α} {value : β} :
    result.map f = .ok value ↔ ∃ given, result = .ok given ∧ f given = value := by
  cases result <;> simp [Except.map]

theorem map_eq_error {f : α → β} {result : Except ε α} {error : ε} :
    result.map f = .error error ↔ result = .error error := by
  cases result <;> simp [Except.map]

theorem mapError_eq_ok {f : ε → δ} {result : Except ε α} {value : α} :
    result.mapError f = .ok value ↔ result = .ok value := by
  cases result <;> simp [Except.mapError]

theorem mapError_eq_error {f : ε → δ} {result : Except ε α} {error : δ} :
    result.mapError f = .error error ↔ ∃ cause, result = .error cause ∧ f cause = error := by
  cases result <;> simp [Except.mapError]

theorem mapM_eq_ok {f : α → Except ε β} {items : List α} {values : List β} :
    items.mapM f = .ok values ↔
      List.Forall₂ (fun item value => f item = .ok value) items values := by
  induction items generalizing values with
  | nil =>
    rw [List.mapM_nil,List.forall₂_nil_left_iff]
    exact ⟨fun same => (Except.ok.inj same).symm,fun same => congrArg _ same.symm⟩
  | cons item items ih =>
    rw [List.mapM_cons,List.forall₂_cons_left_iff]
    simp only [bind_eq_ok,ih]
    constructor
    · rintro ⟨value,first,others,rest,same⟩
      exact ⟨value,others,first,rest,(Except.ok.inj same).symm⟩
    · rintro ⟨value,others,first,rest,rfl⟩
      exact ⟨value,first,others,rest,rfl⟩

theorem mapM_congr {γ : Type} {f : α → Except ε β} {g : γ → Except ε β} {items : List α}
    {others : List γ} (each : List.Forall₂ (fun item other => g other = f item) items others) :
    others.mapM g = items.mapM f := by
  induction each with
  | nil => rfl
  | cons first _ ih => rw [List.mapM_cons,List.mapM_cons,first,ih]

/-- There are values of all items when there is one of each. -/
theorem exists_mapM_iff {f : α → Except ε β} {items : List α} :
    (∃ values, items.mapM f = .ok values) ↔ ∀ item ∈ items, ∃ value, f item = .ok value := by
  induction items with
  | nil => exact ⟨nofun,fun _ => ⟨[],rfl⟩⟩
  | cons item items ih =>
    rw [List.forall_mem_cons,← ih]
    simp only [mapM_eq_ok,List.forall₂_cons_left_iff]
    constructor
    · rintro ⟨_,value,values,first,rest,-⟩
      exact ⟨⟨value,first⟩,⟨values,rest⟩⟩
    · rintro ⟨⟨value,first⟩,⟨values,rest⟩⟩
      exact ⟨_,value,values,first,rest,rfl⟩

/-- The error of the whole is that of an item with nothing but values before it. -/
theorem mapM_eq_error {f : α → Except ε β} {items : List α} {error : ε} :
    items.mapM f = .error error ↔ ∃ before item after, items = before ++ item :: after ∧
      (∀ earlier ∈ before, ∃ value, f earlier = .ok value) ∧ f item = .error error := by
  induction items with
  | nil => exact ⟨nofun,by simp⟩
  | cons head items ih =>
    rw [List.mapM_cons]
    cases first : f head with
    | error failure =>
      constructor
      · rintro ⟨⟩
        exact ⟨[],head,items,rfl,nofun,first⟩
      · rintro ⟨before,item,after,split,passed,failed⟩
        cases before with
        | nil =>
          obtain ⟨rfl,rfl⟩ := List.cons.inj split
          rw [first] at failed
          exact Except.error.inj failed ▸ rfl
        | cons earlier before =>
          obtain ⟨rfl,rfl⟩ := List.cons.inj split
          obtain ⟨value,given⟩ := passed head List.mem_cons_self
          rw [first] at given
          contradiction
    | ok value =>
      have rest : (do let values ← items.mapM f; pure (value :: values)) = .error error ↔
          items.mapM f = .error error := by
        cases items.mapM f <;> simp [bind,Except.bind,pure,Except.pure]
      refine rest.trans (ih.trans ?_)
      constructor
      · rintro ⟨before,item,after,rfl,passed,failed⟩
        exact ⟨head :: before,item,after,rfl,List.forall_mem_cons.mpr ⟨⟨value,first⟩,passed⟩,
          failed⟩
      · rintro ⟨before,item,after,split,passed,failed⟩
        cases before with
        | nil =>
          obtain ⟨rfl,rfl⟩ := List.cons.inj split
          rw [first] at failed
          contradiction
        | cons earlier before =>
          obtain ⟨rfl,rfl⟩ := List.cons.inj split
          exact ⟨before,item,after,rfl,(List.forall_mem_cons.mp passed).2,failed⟩

section

variable {f : α → Except ε β} {items : List α} {values : List β} {place count : Nat} {error : ε}

theorem mapM_append_eq_ok {others : List α} :
    (items ++ others).mapM f = .ok values ↔ ∃ front rest, items.mapM f = .ok front ∧
      others.mapM f = .ok rest ∧ values = front ++ rest := by
  rw [List.mapM_append]
  simp only [bind_eq_ok]
  constructor
  · rintro ⟨front,first,rest,second,same⟩
    exact ⟨front,rest,first,second,(Except.ok.inj same).symm⟩
  · rintro ⟨front,rest,first,second,rfl⟩
    exact ⟨front,first,rest,second,rfl⟩

theorem mapM_take (all : items.mapM f = .ok values) (count : Nat) :
    (items.take count).mapM f = .ok (values.take count) :=
  mapM_eq_ok.mpr (List.forall₂_take count (mapM_eq_ok.mp all))

/-- The item at a place is the first that fails. -/
structure FailsAt (f : α → Except ε β) (items : List α) (place : Nat) (error : ε) : Prop where
  failed : ∃ item, items[place]? = some item ∧ f item = .error error
  passed : ∀ earlier < place, ∀ item, items[earlier]? = some item → ∃ value, f item = .ok value

theorem mapM_eq_error_iff_failsAt :
    items.mapM f = .error error ↔ ∃ place, FailsAt f items place error := by
  rw [mapM_eq_error]
  constructor
  · rintro ⟨before,item,after,rfl,passed,failed⟩
    refine ⟨before.length,⟨item,by simp,failed⟩,fun earlier early item stands => ?_⟩
    rw [List.getElem?_append_left early] at stands
    exact passed item (List.mem_of_getElem? stands)
  · rintro ⟨place,⟨item,stands,failed⟩,passed⟩
    obtain ⟨bound,rfl⟩ := List.getElem?_eq_some_iff.mp stands
    refine ⟨items.take place,items[place],items.drop (place + 1),?_,?_,failed⟩
    · rw [List.getElem_cons_drop,List.take_append_drop]
    · intro earlier member
      obtain ⟨i,short,rfl⟩ := List.mem_take_iff_getElem.mp member
      exact passed i (by omega) _ (List.getElem?_eq_getElem _)

namespace FailsAt

variable (fails : FailsAt f items place error)

include fails

theorem take (early : place < count) : FailsAt f (items.take count) place error where
  failed := by
    rw [List.getElem?_take_of_lt early]
    exact fails.failed
  passed earlier before item stands := by
    rw [List.getElem?_take_of_lt (Nat.lt_trans before early)] at stands
    exact fails.passed earlier before item stands

/-- Nothing fails in front of the first item that does. -/
theorem take_passes (late : count ≤ place) :
    ∃ values, (items.take count).mapM f = .ok values := by
  refine exists_mapM_iff.mpr fun item member => ?_
  obtain ⟨i,short,rfl⟩ := List.mem_take_iff_getElem.mp member
  exact fails.passed i (by omega) _ (List.getElem?_eq_getElem _)

end FailsAt

end

/-- Every value comes from an item. -/
theorem exists_of_mem_mapM {f : α → Except ε β} {items : List α} {values : List β}
    (all : items.mapM f = .ok values) {value : β} (member : value ∈ values) :
    ∃ item ∈ items, f item = .ok value := by
  have each := mapM_eq_ok.mp all
  clear all
  induction each with
  | nil => contradiction
  | cons first _ ih =>
    rcases List.mem_cons.mp member with rfl | later
    · exact ⟨_,List.mem_cons_self,first⟩
    · obtain ⟨item,among,given⟩ := ih later
      exact ⟨item,List.mem_cons_of_mem _ among,given⟩

/-- What is the same of every item and its value is the same of the lists. -/
theorem map_eq_of_mapM {γ : Type} {f : α → Except ε β} {before : α → γ} {after : β → γ}
    {items : List α} {values : List β} (all : items.mapM f = .ok values)
    (each : ∀ item ∈ items, ∀ value, f item = .ok value → after value = before item) :
    values.map after = items.map before := by
  induction items generalizing values with
  | nil =>
    cases all
    rfl
  | cons item items ih =>
    obtain ⟨value,others,first,rest,rfl⟩ := List.forall₂_cons_left_iff.mp (mapM_eq_ok.mp all)
    have later := ih (mapM_eq_ok.mpr rest) fun other among =>
      each other (List.mem_cons_of_mem _ among)
    rw [List.map_cons,List.map_cons,later,each item List.mem_cons_self value first]

end Except

end LedgerRehearsal
