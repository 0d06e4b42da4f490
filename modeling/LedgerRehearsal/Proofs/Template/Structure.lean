import LedgerRehearsal.Proofs.Json.Filling
import LedgerRehearsal.Proofs.Template.Interpolation

/-! Interpolation respects the structure of a query. When no key contains the marker, the slots of a
template are the occurrences of the marker in the strings of the query, and what is put into them
with its special characters escaped stays inside these strings, whatever characters it has. -/
namespace LedgerRehearsal.Template

open Json

theorem marker_capital : ∀ c ∈ marker.toList, c.isUpper = true :=
  List.all_eq_true.mp (show marker.toList.all Char.isUpper = true by decide)

/-- What stands between the quotes of the literal of a text. -/
def inner (text : String) : String := String.ofList (literal text).toList.tail.dropLast

theorem toList_inner (text : String) : (inner text).toList = escaped text.toList := by
  simp [inner,literal,quote]

/-- A template takes as many parameters as the strings of its query have slots. -/
theorem compile_iff_slots {query : Value}
    (free : KeyFree marker.toList (allKeys (canonical query))) (params : List Value) :
    (∃ template, compile query params = .ok template) ↔
      params.length = slots marker.toList (canonical query) := by
  have nonempty := List.length_pos_iff.mpr
    (Text.pieces_ne_nil marker.toList query.canonicalText.toList)
  have count := occurrences_writeCompact marker_ne_nil marker_capital (canonical query) free
  rw [Text.occurrences] at count
  simp only [compile_eq_ok,exists_eq_left]
  rw [Value.canonicalText,Value.compact,String.toList_ofList] at nonempty ⊢
  omega

/-- Escaped texts are put into the strings of a query and change nothing else of it. The slots are
numbered in the order of the canonical text: the members of an object by their keys, the items of a
list as they stand, and the occurrences in a string from left to right. -/
theorem interpolate_structured {query : Value}
    (free : ∀ key ∈ allKeys query, ¬ marker.toList <:+: key.toList) (params : List Value) :
    ((∃ template, compile query params = .ok template) ↔
      params.length = slots marker.toList (canonical query)) ∧
    ∀ template, compile query params = .ok template →
      ∀ texts : List String, texts.length = params.length →
        let filled := fillSlots marker.toList (canonical query) (texts.map String.toList)
        template.interpolate (texts.map inner) = some filled.1.canonicalText ∧
          filled.2 = [] ∧ shape filled.1 = shape (canonical query) := by
  have canonicalFree : KeyFree marker.toList (allKeys (canonical query)) :=
    fun key present => free key (allKeys_canonical query present)
  refine ⟨compile_iff_slots canonicalFree params,?_⟩
  intro template compiled texts count filled
  have count' : (texts.map inner).length = params.length := by rw [List.length_map,count]
  have written : (texts.map inner).map String.toList =
      (texts.map String.toList).map escaped := by
    simp [toList_inner]
  obtain ⟨interpolated,-⟩ := interpolate_eq_fill compiled count'
  have whole := fill_writeCompact marker_ne_nil marker_capital (canonical query) canonicalFree
    (texts.map String.toList)
  have same : canonical filled.1 = filled.1 :=
    canonical_of_ordered _ (ordered_fillSlots _ _ (ordered_canonical query))
  refine ⟨?_,?_,shape_fillSlots _ _⟩
  · rw [interpolated,written,Value.canonicalText,Value.compact,String.toList_ofList,whole,
      Value.canonicalText,same]
    rfl
  · have slots := (compile_iff_slots canonicalFree params).mp ⟨template,compiled⟩
    simp only [filled]
    rw [fillSlots_left marker_ne_nil,List.drop_eq_nil_iff,List.length_map]
    omega

/-- A query with its slots in two members, of which the later one comes first in the text. -/
def twoMembers : Value := .ofMembers [("b",.string "PARAM"),("a",.list [.string "<PARAM>"])]

theorem twoMembers_structured :
    (∀ key ∈ allKeys twoMembers, ¬ marker.toList <:+: key.toList) ∧
    ∃ template, compile twoMembers [.string "?x",.string "?y"] = .ok template ∧
      template.interpolate (["\"]\x7d","PARAM"].map inner) = some (Value.ofMembers
        [("a",.list [.string "<\"]\x7d>"]),("b",.string "PARAM")]).canonicalText := by
  have free : ∀ key ∈ allKeys twoMembers, ¬ marker.toList <:+: key.toList := by decide +kernel
  obtain ⟨accepted,filling⟩ := interpolate_structured free [.string "?x",.string "?y"]
  obtain ⟨template,compiled⟩ := accepted.mpr (by decide +kernel)
  have filled : (fillSlots marker.toList (canonical twoMembers)
      (["\"]\x7d","PARAM"].map String.toList)).1 =
      .ofMembers [("a",.list [.string "<\"]\x7d>"]),("b",.string "PARAM")] := by decide +kernel
  obtain ⟨interpolated,-⟩ := filling template compiled ["\"]\x7d","PARAM"] rfl
  exact ⟨free,template,compiled,filled ▸ interpolated⟩

example : twoMembers.canonicalText = "\x7b\"a\":[\"<PARAM>\"],\"b\":\"PARAM\"\x7d" := by
  decide +kernel

end LedgerRehearsal.Template
