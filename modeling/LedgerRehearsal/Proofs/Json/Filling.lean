import LedgerRehearsal.Proofs.Json.Literal
import LedgerRehearsal.Proofs.Json.Numeral
import LedgerRehearsal.Proofs.Json.Ordered
import LedgerRehearsal.Proofs.Text.Filling

/-! Filling the text of a value is filling its strings. A marker of capital letters is written as it
stands, only strings and keys are written with capital letters, and what parts the strings in the
text is foreign to the marker. So the occurrences in the text are those in the strings, in the order
in which the text is written, as long as no key contains the marker. -/
namespace LedgerRehearsal.Json

/-- Without capital letters. -/
def Small (text : List Char) : Prop := ∀ c ∈ text, c.isUpper = false

@[simp] theorem small_nil : Small [] := by simp [Small]

@[simp] theorem small_cons {c : Char} {text : List Char} :
    Small (c :: text) ↔ c.isUpper = false ∧ Small text := by simp [Small]

@[simp] theorem small_append {front back : List Char} :
    Small (front ++ back) ↔ Small front ∧ Small back := List.forall_mem_append

theorem isUpper_of_isDigit {c : Char} (digit : c.isDigit = true) : c.isUpper = false := by
  have nine : '9'.val.toNat = 57 := rfl
  have capital : 'A'.val.toNat = 65 := rfl
  simp only [Char.isDigit,Bool.and_eq_true,decide_eq_true_eq,UInt32.le_iff_toNat_le] at digit
  refine Bool.eq_false_iff.mpr fun upper => ?_
  have above : 'A'.val ≤ c.val := (of_decide_eq_true upper).1
  rw [UInt32.le_iff_toNat_le] at above
  omega

theorem small_number (n : Number) : Small n.text := by
  intro c member
  have numeral := allNumeral_text n c member
  rw [isNumeral,Bool.or_eq_true] at numeral
  rcases numeral with digit | other
  · exact isUpper_of_isDigit digit
  · simp only [List.contains_iff_mem,List.mem_cons,List.not_mem_nil,or_false] at other
    rcases other with rfl | rfl | rfl | rfl <;> rfl

variable {marker : List Char}

theorem not_mem_of_capital (capital : ∀ c ∈ marker, c.isUpper = true) {c : Char}
    (other : c.isUpper = false) : c ∉ marker := fun member => by
  rw [capital c member] at other
  contradiction

theorem fill_small (nonempty : marker ≠ []) (capital : ∀ c ∈ marker, c.isUpper = true)
    {front : List Char} (small : Small front) (rest : List Char) (values : List (List Char)) :
    Text.fill marker (front ++ rest) values =
      (front ++ (Text.fill marker rest values).1,(Text.fill marker rest values).2) := by
  induction front with
  | nil => rfl
  | cons c front ih =>
    obtain ⟨other,small⟩ := small_cons.mp small
    rw [List.cons_append,Text.fill_foreign nonempty (not_mem_of_capital capital other),ih small]
    rfl

theorem fill_eq_of_small (nonempty : marker ≠ []) (capital : ∀ c ∈ marker, c.isUpper = true)
    {text : List Char} (small : Small text) (values : List (List Char)) :
    Text.fill marker text values = (text,values) := by
  have alone := fill_small nonempty capital small [] values
  rwa [List.append_nil,Text.fill_nil,List.append_nil] at alone

/-- A marker of capital letters is not made by writing a text. -/
theorem prefix_escaped (capital : ∀ c ∈ marker, c.isUpper = true) {text : List Char}
    (front : marker <+: escaped text) : marker <+: text := by
  induction marker generalizing text with
  | nil => exact List.nil_prefix
  | cons u marker ih =>
    have upper := capital u List.mem_cons_self
    cases text with
    | nil => exact absurd (List.prefix_nil.mp front) nofun
    | cons c text =>
      rw [escaped_cons] at front
      rcases escape_eq_or_small c with same | ⟨-,small⟩
      · rw [same] at front
        obtain ⟨rfl,later⟩ := List.cons_prefix_cons.mp front
        exact List.cons_prefix_cons.mpr
          ⟨rfl,ih (fun d member => capital d (List.mem_cons_of_mem _ member)) later⟩
      · obtain ⟨d,ds,whole⟩ := List.exists_cons_of_ne_nil (escape_ne_nil c)
        rw [whole] at front small
        obtain ⟨rfl,-⟩ := List.cons_prefix_cons.mp front
        rw [small u List.mem_cons_self] at upper
        contradiction

/-- A text may be written before it is filled, if what is put in is written too. -/
theorem fill_escaped (nonempty : marker ≠ []) (capital : ∀ c ∈ marker, c.isUpper = true)
    (text : List Char) (values : List (List Char)) :
    Text.fill marker (escaped text) (values.map escaped) =
      (escaped (Text.fill marker text values).1,(Text.fill marker text values).2.map escaped) := by
  induction text using Text.scan nonempty generalizing values with
  | nil => simp
  | found rest ih =>
    cases values with
    | nil => simp
    | cons value values =>
      rw [escaped_append,escaped_capital capital,List.map_cons,Text.fill_marker nonempty,
        Text.fill_marker nonempty,ih,escaped_append]
  | passed c rest absent ih =>
    rw [Text.fill_passed absent,escaped_cons,escaped_cons]
    -- only a character that is written as it stands can begin like the marker
    rcases escape_eq_or_small c with same | ⟨-,small⟩
    · have still : ¬ marker <+: c :: escaped rest := fun front => absent <| by
        refine prefix_escaped capital ?_
        rwa [escaped_cons,same]
      rw [same,List.singleton_append,Text.fill_passed still,ih]
      rfl
    · rw [fill_small nonempty capital small,ih]

mutual

/-- How often a marker occurs in the strings of a value. -/
def slots (marker : List Char) : Value → Nat
  | .string text => Text.occurrences marker text.toList
  | .list items => itemSlots marker items
  | .object members => memberSlots marker members
  | .null | .bool _ | .number _ => 0

def itemSlots (marker : List Char) : List Value → Nat
  | [] => 0
  | item :: rest => slots marker item + itemSlots marker rest

def memberSlots (marker : List Char) : List (String × Value) → Nat
  | [] => 0
  | (_, value) :: rest => slots marker value + memberSlots marker rest

end

mutual

/-- The value with texts in the place of the occurrences of a marker in its strings, the items of a
list and the members of an object one after another, and the texts that are left over. -/
def fillSlots (marker : List Char) : Value → List (List Char) → Value × List (List Char)
  | .string text, texts =>
    let filled := Text.fill marker text.toList texts
    (.string (String.ofList filled.1),filled.2)
  | .list items, texts =>
    let filled := fillItems marker items texts
    (.list filled.1,filled.2)
  | .object members, texts =>
    let filled := fillMembers marker members texts
    (.object filled.1,filled.2)
  | .null, texts => (.null,texts)
  | .bool b, texts => (.bool b,texts)
  | .number n, texts => (.number n,texts)

def fillItems (marker : List Char) :
    List Value → List (List Char) → List Value × List (List Char)
  | [], texts => ([],texts)
  | item :: rest, texts =>
    let first := fillSlots marker item texts
    let others := fillItems marker rest first.2
    (first.1 :: others.1,others.2)

def fillMembers (marker : List Char) :
    List (String × Value) → List (List Char) → List (String × Value) × List (List Char)
  | [], texts => ([],texts)
  | (key, value) :: rest, texts =>
    let first := fillSlots marker value texts
    let others := fillMembers marker rest first.2
    ((key,first.1) :: others.1,others.2)

end

mutual

/-- The value with its strings left blank. -/
def shape : Value → Value
  | .string _ => .string ""
  | .list items => .list (itemShapes items)
  | .object members => .object (memberShapes members)
  | .null => .null
  | .bool b => .bool b
  | .number n => .number n

def itemShapes : List Value → List Value
  | [] => []
  | item :: rest => shape item :: itemShapes rest

def memberShapes : List (String × Value) → List (String × Value)
  | [] => []
  | (key, value) :: rest => (key,shape value) :: memberShapes rest

end

mutual

/-- Filling the strings of a value changes nothing else of it. -/
theorem shape_fillSlots : (value : Value) → (texts : List (List Char)) →
    shape (fillSlots marker value texts).1 = shape value
  | .string _, _ => rfl
  | .list items, texts => congrArg Value.list (itemShapes_fillItems items texts)
  | .object members, texts => congrArg Value.object (memberShapes_fillMembers members texts)
  | .null, _ | .bool _, _ | .number _, _ => rfl

theorem itemShapes_fillItems : (items : List Value) → (texts : List (List Char)) →
    itemShapes (fillItems marker items texts).1 = itemShapes items
  | [], _ => rfl
  | item :: rest, texts => by
    rw [fillItems,itemShapes,shape_fillSlots item,itemShapes_fillItems rest,itemShapes]

theorem memberShapes_fillMembers : (members : List (String × Value)) →
    (texts : List (List Char)) →
    memberShapes (fillMembers marker members texts).1 = memberShapes members
  | [], _ => rfl
  | (key, value) :: rest, texts => by
    rw [fillMembers,memberShapes,shape_fillSlots value,memberShapes_fillMembers rest,memberShapes]

end

theorem keys_fillMembers (members : Members) (texts : List (List Char)) :
    Members.keys (fillMembers marker members texts).1 = members.keys := by
  induction members generalizing texts with
  | nil => rfl
  | cons member rest ih => exact congrArg (member.1 :: ·) (ih _)

mutual

/-- A value that is filled keeps the order of its members. -/
theorem ordered_fillSlots : (value : Value) → (texts : List (List Char)) → Ordered value →
    Ordered (fillSlots marker value texts).1
  | .list items, texts, ordered => orderedItems_fillItems items texts ordered
  | .object members, texts, ordered => by
    refine ⟨?_,orderedMembers_fillMembers members texts ordered.2⟩
    rw [Members.Ascending,keys_fillMembers]
    exact ordered.1
  | .null, _, _ | .bool _, _, _ | .number _, _, _ | .string _, _, _ => trivial

theorem orderedItems_fillItems : (items : List Value) → (texts : List (List Char)) →
    OrderedItems items → OrderedItems (fillItems marker items texts).1
  | [], _, _ => trivial
  | item :: rest, texts, ordered =>
    ⟨ordered_fillSlots item texts ordered.1,orderedItems_fillItems rest _ ordered.2⟩

theorem orderedMembers_fillMembers : (members : List (String × Value)) →
    (texts : List (List Char)) → OrderedMembers members →
    OrderedMembers (fillMembers marker members texts).1
  | [], _, _ => trivial
  | (_, value) :: rest, texts, ordered =>
    ⟨ordered_fillSlots value texts ordered.1,orderedMembers_fillMembers rest _ ordered.2⟩

end

mutual

/-- Each occurrence uses up one text. -/
theorem fillSlots_left (nonempty : marker ≠ []) : (value : Value) → (texts : List (List Char)) →
    (fillSlots marker value texts).2 = texts.drop (slots marker value)
  | .string text, texts => Text.fill_left nonempty text.toList texts
  | .list items, texts => fillItems_left nonempty items texts
  | .object members, texts => fillMembers_left nonempty members texts
  | .null, _ | .bool _, _ | .number _, _ => rfl

theorem fillItems_left (nonempty : marker ≠ []) : (items : List Value) →
    (texts : List (List Char)) →
    (fillItems marker items texts).2 = texts.drop (itemSlots marker items)
  | [], _ => rfl
  | item :: rest, texts => by
    rw [fillItems,itemSlots,fillItems_left nonempty rest,fillSlots_left nonempty item,
      List.drop_drop]

theorem fillMembers_left (nonempty : marker ≠ []) : (members : List (String × Value)) →
    (texts : List (List Char)) →
    (fillMembers marker members texts).2 = texts.drop (memberSlots marker members)
  | [], _ => rfl
  | (key, value) :: rest, texts => by
    rw [fillMembers,memberSlots,fillMembers_left nonempty rest,fillSlots_left nonempty value,
      List.drop_drop]

end

theorem fill_quote (nonempty : marker ≠ []) (capital : ∀ c ∈ marker, c.isUpper = true)
    (text rest : List Char) (values : List (List Char)) :
    Text.fill marker (quote text ++ rest) (values.map escaped) =
      (quote (Text.fill marker text values).1 ++
          (Text.fill marker rest ((Text.fill marker text values).2.map escaped)).1,
        (Text.fill marker rest ((Text.fill marker text values).2.map escaped)).2) := by
  have foreign : '"' ∉ marker := not_mem_of_capital capital rfl
  have whole : quote text ++ rest = '"' :: (escaped text ++ '"' :: rest) := by simp [quote]
  rw [whole,Text.fill_foreign nonempty foreign,Text.fill_separated nonempty foreign,
    fill_escaped nonempty capital]
  simp [quote]

/-- A key without the marker stays in front of its value. -/
theorem fill_member (nonempty : marker ≠ []) (capital : ∀ c ∈ marker, c.isUpper = true)
    {key : String} (free : ¬ marker <:+: key.toList) (text : List Char)
    (texts : List (List Char)) :
    Text.fill marker (quote key.toList ++ ':' :: text) (texts.map escaped) =
      (quote key.toList ++ ':' :: (Text.fill marker text (texts.map escaped)).1,
        (Text.fill marker text (texts.map escaped)).2) := by
  rw [fill_quote nonempty capital,Text.fill_absent free,
    Text.fill_foreign nonempty (not_mem_of_capital capital rfl)]

/-- The marker occurs in none of the keys. -/
def KeyFree (marker : List Char) (keys : List String) : Prop :=
  ∀ key ∈ keys, ¬ marker <:+: key.toList

mutual

/-- Filling the text of a value is filling its strings. -/
theorem fill_writeCompact (nonempty : marker ≠ []) (capital : ∀ c ∈ marker, c.isUpper = true) :
    (value : Value) → KeyFree marker (allKeys value) → (texts : List (List Char)) →
    Text.fill marker (writeCompact value) (texts.map escaped) =
      (writeCompact (fillSlots marker value texts).1,
        (fillSlots marker value texts).2.map escaped)
  | .string text, _, texts => by
    have filled := fill_quote nonempty capital text.toList [] texts
    simp only [List.append_nil,Text.fill_nil] at filled
    rw [writeCompact,filled,fillSlots,writeCompact,String.toList_ofList]
  | .list items, free, texts => by
    rw [writeCompact,List.cons_append,
      Text.fill_foreign nonempty (not_mem_of_capital capital rfl),
      Text.fill_separated nonempty (not_mem_of_capital capital rfl),
      fill_writeItems nonempty capital items free texts,Text.fill_nil]
    rfl
  | .object members, free, texts => by
    rw [writeCompact,List.cons_append,
      Text.fill_foreign nonempty (not_mem_of_capital capital rfl),
      Text.fill_separated nonempty (not_mem_of_capital capital rfl),
      fill_writeMembers nonempty capital members free texts,Text.fill_nil]
    rfl
  | .null, _, _ => fill_eq_of_small nonempty capital (by simp [writeCompact]) _
  | .bool true, _, _ => fill_eq_of_small nonempty capital (by simp [writeCompact]) _
  | .bool false, _, _ => fill_eq_of_small nonempty capital (by simp [writeCompact]) _
  | .number n, _, _ => fill_eq_of_small nonempty capital (small_number n) _

theorem fill_writeItems (nonempty : marker ≠ []) (capital : ∀ c ∈ marker, c.isUpper = true) :
    (items : List Value) → KeyFree marker (itemKeys items) → (texts : List (List Char)) →
    Text.fill marker (writeItems items) (texts.map escaped) =
      (writeItems (fillItems marker items texts).1,
        (fillItems marker items texts).2.map escaped)
  | [], _, texts => Text.fill_nil _
  | [item], free, texts =>
    fill_writeCompact nonempty capital item (List.forall_mem_append.mp free).1 texts
  | item :: next :: rest, free, texts => by
    have first := fill_writeCompact nonempty capital item (List.forall_mem_append.mp free).1 texts
    have others := fill_writeItems nonempty capital (next :: rest)
      (List.forall_mem_append.mp free).2 (fillSlots marker item texts).2
    rw [writeItems,Text.fill_separated nonempty (not_mem_of_capital capital rfl),first,others]
    rfl

theorem fill_writeMembers (nonempty : marker ≠ []) (capital : ∀ c ∈ marker, c.isUpper = true) :
    (members : List (String × Value)) → KeyFree marker (memberKeys members) →
    (texts : List (List Char)) →
    Text.fill marker (writeMembers members) (texts.map escaped) =
      (writeMembers (fillMembers marker members texts).1,
        (fillMembers marker members texts).2.map escaped)
  | [], _, texts => Text.fill_nil _
  | [(key, value)], free, texts => by
    obtain ⟨here,inside⟩ := List.forall_mem_cons.mp (List.forall_mem_append.mp free).1
    rw [writeMembers,fill_member nonempty capital here,
      fill_writeCompact nonempty capital value inside texts]
    rfl
  | (key, value) :: next :: rest, free, texts => by
    obtain ⟨front,later⟩ := List.forall_mem_append.mp free
    obtain ⟨here,inside⟩ := List.forall_mem_cons.mp front
    have others := fill_writeMembers nonempty capital (next :: rest) later
      (fillSlots marker value texts).2
    rw [writeMembers,Text.fill_separated nonempty (not_mem_of_capital capital rfl),
      fill_member nonempty capital here,fill_writeCompact nonempty capital value inside texts,
      others]
    rfl

end

/-- The text of a value has as many slots as its strings have. -/
theorem occurrences_writeCompact (nonempty : marker ≠ [])
    (capital : ∀ c ∈ marker, c.isUpper = true) (value : Value)
    (free : KeyFree marker (allKeys value)) :
    Text.occurrences marker (writeCompact value) = slots marker value := by
  -- with enough texts to fill both, the text and the strings leave the same number of them over
  have texts (count : Nat) := congrArg (fun filled => filled.2.length)
    (fill_writeCompact nonempty capital value free (List.replicate count []))
  have left := texts (Text.occurrences marker (writeCompact value) + slots marker value)
  simp only [Text.fill_left nonempty,fillSlots_left nonempty,List.length_map,List.length_drop,
    List.length_replicate] at left
  omega

end LedgerRehearsal.Json
