import LedgerRehearsal.Proofs.Text.Filling
import LedgerRehearsal.Template

/-! Interpolation puts texts in the place of the markers. The fragments of a template are what
stands between the markers of a text, so weaving values between them is filling the text. -/
namespace LedgerRehearsal.Template

open Json

theorem marker_ne_nil : marker.toList ≠ [] := by decide

theorem weave_front (fragments values : List String) :
    ∃ others, ∀ front, weave (front :: fragments) values = front :: others := by
  cases values with
  | nil => exact ⟨fragments,fun _ => rfl⟩
  | cons value values => exact ⟨value :: weave fragments values,fun _ => rfl⟩

theorem join_weave_cut {text : List Char} {values : List String}
    (count : (Text.pieces marker.toList text).length = values.length + 1) :
    (String.join (weave ((Text.pieces marker.toList text).map String.ofList) values)).toList =
      (Text.fill marker.toList text (values.map String.toList)).1 := by
  induction text using Text.scan marker_ne_nil generalizing values with
  | nil =>
    obtain rfl : values = [] := by simpa using count
    simp [weave]
  | found rest ih =>
    rw [Text.pieces_marker marker_ne_nil] at count ⊢
    cases values with
    | nil => exact absurd (by simpa using count) (Text.pieces_ne_nil marker.toList rest)
    | cons value values =>
      rw [List.map_cons,List.map_cons,Text.fill_marker marker_ne_nil,weave,String.join_cons,
        String.join_cons,String.toList_append,String.toList_append,ih (by simpa using count)]
      rfl
  | passed c rest absent ih =>
    rw [Text.pieces_passed absent] at count ⊢
    have inner := ih (by simpa using count)
    rw [Text.fill_passed absent,← inner]
    obtain ⟨piece,parts,whole⟩ := List.exists_cons_of_ne_nil
      (Text.pieces_ne_nil marker.toList rest)
    -- the character is added to the first piece, which stands in front whatever the values are
    obtain ⟨others,first⟩ := weave_front (parts.map String.ofList) values
    rw [whole,List.modifyHead_cons,List.map_cons,List.map_cons,first,first]
    simp

theorem compile_eq_ok {query : Value} {params : List Value} {template : Template} :
    compile query params = .ok template ↔
      template = ⟨cut query.canonicalText,params.map expression⟩ ∧
        (Text.pieces marker.toList query.canonicalText.toList).length = params.length + 1 := by
  have nonempty := List.length_pos_iff.mpr
    (Text.pieces_ne_nil marker.toList query.canonicalText.toList)
  have count : (cut query.canonicalText).length - 1 = params.length ↔
      (Text.pieces marker.toList query.canonicalText.toList).length = params.length + 1 := by
    rw [cut,List.length_map]
    omega
  unfold compile
  dsimp only
  split
  · rename_i same
    simp [count.mp same,eq_comm]
  · rename_i other
    simp [mt count.mpr other]

/-- Only the number of parameters can be wrong. -/
theorem compile_eq_error {query : Value} {params : List Value} {error : TemplateError} :
    compile query params = .error error ↔ ∃ slots, slots = (cut query.canonicalText).length - 1 ∧
      slots ≠ params.length ∧ error = .countMismatch slots params.length query.canonicalText := by
  unfold compile
  dsimp only
  split
  · rename_i same
    simp [same]
  · rename_i other
    simp [other,eq_comm]

/-- Interpolation fills all slots of the query, and only those. -/
theorem interpolate_eq_fill {query : Value} {params : List Value} {template : Template}
    (compiled : compile query params = .ok template) {values : List String}
    (count : values.length = params.length) :
    template.interpolate values = some
        (String.ofList (Text.fill marker.toList query.canonicalText.toList
          (values.map String.toList)).1) ∧
      (Text.fill marker.toList query.canonicalText.toList (values.map String.toList)).2 = [] := by
  obtain ⟨rfl,pieces⟩ := compile_eq_ok.mp compiled
  constructor
  · rw [interpolate,if_pos (by simpa using count),cut,← join_weave_cut (by omega),
      String.ofList_toList]
  · rw [Text.fill_left marker_ne_nil,List.drop_eq_nil_iff,List.length_map,Text.occurrences]
    omega

end LedgerRehearsal.Template
