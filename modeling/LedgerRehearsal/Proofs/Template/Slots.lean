import LedgerRehearsal.Proofs.Json.Marks
import LedgerRehearsal.Proofs.Template.Structure

/-! The slots of a template are the marks in the strings and keys of its query. They are counted in
the text, so nothing that writing a value adds may make a mark, break one or join two. -/
namespace LedgerRehearsal.Template

open Json

theorem occurrences_canonicalText {query : Value} (distinct : Distinct query) :
    Text.occurrences marker.toList query.canonicalText.toList =
      marks marker.toList (allTexts query) := by
  rw [Value.canonicalText,Value.compact,String.toList_ofList,
    occurrences_compact marker_ne_nil marker_capital]
  exact marks_perm (rearranged_canonical query distinct).allTexts_perm.symm

theorem length_cut (text : String) :
    (cut text).length = Text.occurrences marker.toList text.toList + 1 := by
  have := List.length_pos_iff.mpr (Text.pieces_ne_nil marker.toList text.toList)
  rw [cut,List.length_map,Text.occurrences]
  omega

theorem intercalate_cut (text : String) : marker.intercalate (cut text) = text := by
  rw [← String.toList_inj,String.toList_intercalate,cut,List.map_map]
  have pieces : (Text.pieces marker.toList text.toList).map (String.toList ∘ String.ofList) =
      Text.pieces marker.toList text.toList := by simp
  rw [pieces,Text.intercalate_pieces marker_ne_nil]

theorem cut_free (text : String) : ∀ fragment ∈ cut text, ¬ marker.toList <:+: fragment.toList := by
  intro fragment member
  obtain ⟨piece,among,rfl⟩ := List.mem_map.mp member
  rw [String.toList_ofList]
  exact Text.pieces_free marker_ne_nil _ piece among

/-- A query has as many slots as its strings and keys have marks. With one parameter for each it is
compiled to fragments without a mark, of which the canonical text is put together again; with more
or fewer it is refused with both numbers and the text. -/
theorem compile_slots {query : Value} (distinct : Distinct query) (params : List Value) :
    let slots := marks marker.toList (allTexts query)
    (cut query.canonicalText).length - 1 = slots ∧ markerCount query = slots ∧
      ((∃ template, compile query params = .ok template) ↔ slots = params.length) ∧
      (∀ template, compile query params = .ok template →
        template.fragments.length = params.length + 1 ∧
          (∀ fragment ∈ template.fragments, ¬ marker.toList <:+: fragment.toList) ∧
          marker.intercalate template.fragments = query.canonicalText ∧
          template.params = params.map expression) ∧
      (slots ≠ params.length →
        compile query params =
          .error (.countMismatch slots params.length query.canonicalText)) := by
  intro slots
  have found : (cut query.canonicalText).length - 1 = slots := by
    rw [length_cut,occurrences_canonicalText distinct]
    rfl
  have counted : markerCount query = slots := by
    rw [markerCount,Value.compact,String.toList_ofList,
      occurrences_compact marker_ne_nil marker_capital]
  have compiled (same : slots = params.length) :
      compile query params = .ok ⟨cut query.canonicalText,params.map expression⟩ := by
    rw [compile,found,if_pos same]
  have refused (other : slots ≠ params.length) : compile query params =
      .error (.countMismatch slots params.length query.canonicalText) := by
    rw [compile,found,if_neg other]
  refine ⟨found,counted,⟨?_,fun same => ⟨_,compiled same⟩⟩,?_,refused⟩
  · rintro ⟨template,accepted⟩
    by_contra other
    rw [refused other] at accepted
    contradiction
  · intro template accepted
    obtain ⟨rfl,pieces⟩ := compile_eq_ok.mp accepted
    exact ⟨by rw [cut,List.length_map,pieces],cut_free _,intercalate_cut _,rfl⟩

/-- A query with marks in a key and in strings, two of them side by side, and with letters of a mark
that quotes or an escape keep apart. -/
def markedKey : Value :=
  .object [("PARAM",.list [.string "PARAMPARAMPAR",.string "AM",.ofNat 7]),
    ("k",.string "\"PAR\nAMPARAM")]

theorem markedKey_slots :
    Distinct markedKey ∧ markerCount markedKey = 4 ∧
      (∃ template, compile markedKey (.replicate 4 .null) = .ok template) ∧
      compile markedKey [.null] = .error (.countMismatch 4 1 markedKey.canonicalText) := by
  have read : parse "\x7b\"PARAM\":[\"PARAMPARAMPAR\",\"AM\",7],\"k\":\"\\\"PAR\\nAMPARAM\"\x7d" =
      some markedKey := by decide +kernel
  have distinct := distinct_of_parse read
  have slots : marks marker.toList (allTexts markedKey) = 4 := by decide +kernel
  obtain ⟨-,counted,accepted,-,-⟩ := compile_slots distinct (.replicate 4 .null)
  obtain ⟨-,-,-,-,refused⟩ := compile_slots distinct [.null]
  rw [slots] at counted accepted refused
  exact ⟨distinct,counted,accepted.mpr rfl,refused (by decide)⟩

end LedgerRehearsal.Template
