import LedgerRehearsal.Proofs.Json.Filling
import LedgerRehearsal.Proofs.Json.Rearranged
import LedgerRehearsal.Proofs.Text.Pieces

/-! Marks in the text of a value. A marker of capital letters occurs in the text of a value where it
occurs in a string or in a key, and nowhere else: escapes, numbers and words are small, and quotes
and punctuation part what stands on either side of them. -/
namespace LedgerRehearsal.Json

mutual

/-- The strings and the keys in a value, at any depth. -/
def allTexts : Value → List String
  | .string text => [text]
  | .list items => itemTexts items
  | .object members => memberTexts members
  | .null | .bool _ | .number _ => []

def itemTexts : List Value → List String
  | [] => []
  | item :: rest => allTexts item ++ itemTexts rest

def memberTexts : List (String × Value) → List String
  | [] => []
  | (key, value) :: rest => key :: allTexts value ++ memberTexts rest

end

/-- How often a marker occurs in texts, each taken on its own. -/
def marks (marker : List Char) : List String → Nat
  | [] => 0
  | text :: texts => Text.occurrences marker text.toList + marks marker texts

variable {marker : List Char}

@[simp] theorem marks_nil : marks marker [] = 0 := rfl

@[simp] theorem marks_cons (text : String) (texts : List String) :
    marks marker (text :: texts) = Text.occurrences marker text.toList + marks marker texts := rfl

@[simp] theorem marks_append (front back : List String) :
    marks marker (front ++ back) = marks marker front + marks marker back := by
  induction front with
  | nil => simp
  | cons text front ih => rw [List.cons_append,marks_cons,marks_cons,ih,Nat.add_assoc]

theorem marks_perm {texts others : List String} (same : texts.Perm others) :
    marks marker texts = marks marker others := by
  induction same with
  | nil => rfl
  | cons text _ ih => rw [marks_cons,marks_cons,ih]
  | swap first second texts => exact Nat.add_left_comm _ _ _
  | trans _ _ front back => exact front.trans back

theorem occurrences_small (nonempty : marker ≠ []) (capital : ∀ c ∈ marker, c.isUpper = true)
    {text : List Char} (small : Small text) : Text.occurrences marker text = 0 := by
  have left := Text.fill_left nonempty text [[]]
  rw [fill_eq_of_small nonempty capital small] at left
  have count := congrArg List.length left
  simp only [List.length_drop,List.length_singleton] at count
  omega

/-- Escaping makes no mark and breaks none. -/
theorem occurrences_escaped (nonempty : marker ≠ []) (capital : ∀ c ∈ marker, c.isUpper = true)
    (text : List Char) :
    Text.occurrences marker (escaped text) = Text.occurrences marker text := by
  -- with enough texts to fill both, as many of them are left over
  have left := congrArg (·.2.length) <| fill_escaped nonempty capital text
    (List.replicate (Text.occurrences marker (escaped text) + Text.occurrences marker text) [])
  simp only [Text.fill_left nonempty,List.length_map,List.length_drop,
    List.length_replicate] at left
  omega

theorem occurrences_quote (nonempty : marker ≠ []) (capital : ∀ c ∈ marker, c.isUpper = true)
    (text rest : List Char) :
    Text.occurrences marker (quote text ++ rest) =
      Text.occurrences marker text + Text.occurrences marker rest := by
  have foreign : '"' ∉ marker := not_mem_of_capital capital rfl
  have whole : quote text ++ rest = '"' :: (escaped text ++ '"' :: rest) := by simp [quote]
  rw [whole,Text.occurrences_foreign nonempty foreign,
    Text.occurrences_separated nonempty foreign,occurrences_escaped nonempty capital]

theorem occurrences_enclosed (nonempty : marker ≠ []) {opening closing : Char}
    (outside : opening ∉ marker) (outside' : closing ∉ marker) (inner : List Char) :
    Text.occurrences marker (opening :: inner ++ [closing]) = Text.occurrences marker inner := by
  rw [List.cons_append,Text.occurrences_foreign nonempty outside,
    Text.occurrences_separated nonempty outside']
  simp [Text.occurrences]

theorem occurrences_member (nonempty : marker ≠ []) (capital : ∀ c ∈ marker, c.isUpper = true)
    (key text : List Char) :
    Text.occurrences marker (quote key ++ ':' :: text) =
      Text.occurrences marker key + Text.occurrences marker text := by
  rw [occurrences_quote nonempty capital,
    Text.occurrences_foreign nonempty (not_mem_of_capital capital rfl)]

mutual

/-- The marks in the text of a value are those in its strings and keys. -/
theorem occurrences_compact (nonempty : marker ≠ []) (capital : ∀ c ∈ marker, c.isUpper = true) :
    (value : Value) → Text.occurrences marker (writeCompact value) = marks marker (allTexts value)
  | .string text => by
    have quoted := occurrences_quote nonempty capital text.toList []
    rw [List.append_nil] at quoted
    simpa [writeCompact,allTexts,Text.occurrences] using quoted
  | .list items => by
    rw [writeCompact,occurrences_enclosed nonempty (not_mem_of_capital capital rfl)
      (not_mem_of_capital capital rfl),occurrences_items nonempty capital items,allTexts]
  | .object members => by
    rw [writeCompact,occurrences_enclosed nonempty (not_mem_of_capital capital rfl)
      (not_mem_of_capital capital rfl),occurrences_members nonempty capital members,allTexts]
  | .null | .bool true | .bool false =>
    occurrences_small nonempty capital (by simp [writeCompact])
  | .number n => occurrences_small nonempty capital (small_number n)

theorem occurrences_items (nonempty : marker ≠ []) (capital : ∀ c ∈ marker, c.isUpper = true) :
    (items : List Value) →
    Text.occurrences marker (writeItems items) = marks marker (itemTexts items)
  | [] => by simp [writeItems,Text.occurrences,itemTexts]
  | [item] => by simp [writeItems,itemTexts,occurrences_compact nonempty capital item]
  | item :: next :: rest => by
    rw [writeItems,Text.occurrences_separated nonempty (not_mem_of_capital capital rfl),
      occurrences_compact nonempty capital item,occurrences_items nonempty capital (next :: rest),
      ← marks_append]
    rfl

theorem occurrences_members (nonempty : marker ≠ []) (capital : ∀ c ∈ marker, c.isUpper = true) :
    (members : List (String × Value)) →
    Text.occurrences marker (writeMembers members) = marks marker (memberTexts members)
  | [] => by simp [writeMembers,Text.occurrences,memberTexts]
  | [(key, value)] => by
    rw [writeMembers,occurrences_member nonempty capital,
      occurrences_compact nonempty capital value]
    simp [memberTexts]
  | (key, value) :: next :: rest => by
    rw [writeMembers,Text.occurrences_separated nonempty (not_mem_of_capital capital rfl),
      occurrences_member nonempty capital,occurrences_compact nonempty capital value,
      occurrences_members nonempty capital (next :: rest),← marks_cons,← marks_append]
    rfl

end

theorem memberTexts_eq_flatMap (members : List (String × Value)) :
    memberTexts members = members.flatMap fun member => member.1 :: allTexts member.2 := by
  induction members with
  | nil => rfl
  | cons member members ih => rw [List.flatMap_cons,← ih]; rfl

mutual

/-- Moving members about loses no text and brings none in. -/
theorem Rearranged.allTexts_perm : {first second : Value} → Rearranged first second →
    (allTexts first).Perm (allTexts second)
  | _, _, .null | _, _, .bool _ | _, _, .number _ | _, _, .string _ => List.Perm.refl _
  | _, _, .list within => within.itemTexts_perm
  | _, .object others, .object within moved => by
    refine within.memberTexts_perm.trans ?_
    rw [memberTexts_eq_flatMap,allTexts,memberTexts_eq_flatMap]
    exact moved.flatMap_right _

theorem RearrangedItems.itemTexts_perm : {items others : List Value} →
    RearrangedItems items others → (itemTexts items).Perm (itemTexts others)
  | _, _, .nil => List.Perm.refl _
  | _, _, .cons first rest => first.allTexts_perm.append rest.itemTexts_perm

theorem RearrangedMembers.memberTexts_perm : {members inside : List (String × Value)} →
    RearrangedMembers members inside → (memberTexts members).Perm (memberTexts inside)
  | _, _, .nil => List.Perm.refl _
  | _, _, .cons key first rest =>
    (first.allTexts_perm.append rest.memberTexts_perm).cons key

end

end LedgerRehearsal.Json
