import LedgerRehearsal.Proofs.Text.Filling

/-! The pieces of a text between the occurrences of a marker. They are what a cut at every
occurrence should leave: none of them contains the marker, and the marker put between them gives the
text again. -/
namespace LedgerRehearsal.Text

variable {marker : List Char}

theorem intercalate_modifyHead (c : Char) {parts : List (List Char)} (nonempty : parts ≠ []) :
    marker.intercalate (parts.modifyHead (c :: ·)) = c :: marker.intercalate parts := by
  obtain ⟨part,others,rfl⟩ := List.exists_cons_of_ne_nil nonempty
  cases others with
  | nil => simp
  | cons next others => simp [List.intercalate_cons_cons]

theorem intercalate_pieces (nonempty : marker ≠ []) (text : List Char) :
    marker.intercalate (pieces marker text) = text := by
  induction text using scan nonempty with
  | nil => simp
  | found rest ih =>
    rw [pieces_marker nonempty,List.intercalate_cons_of_ne_nil (pieces_ne_nil marker rest),ih]
    rfl
  | passed c rest absent ih =>
    rw [pieces_passed absent,intercalate_modifyHead c (pieces_ne_nil marker rest),ih]

theorem pieces_free (nonempty : marker ≠ []) (text : List Char) :
    ∀ piece ∈ pieces marker text, ¬ marker <:+: piece := by
  induction text using scan nonempty with
  | nil => simpa using nonempty
  | found rest ih =>
    rw [pieces_marker nonempty]
    exact List.forall_mem_cons.mpr ⟨by simpa using nonempty,ih⟩
  | passed c rest absent ih =>
    rw [pieces_passed absent]
    have whole := intercalate_pieces nonempty rest
    obtain ⟨piece,others,parts⟩ := List.exists_cons_of_ne_nil (pieces_ne_nil marker rest)
    rw [parts] at ih whole ⊢
    obtain ⟨first,later⟩ := List.forall_mem_cons.mp ih
    refine List.forall_mem_cons.mpr ⟨fun inside => ?_,later⟩
    -- the first piece begins the text, so a marker at its front would have been found
    have begins : piece <+: rest := by
      rw [← whole]
      cases others with
      | nil => simp
      | cons next others => simp [List.intercalate_cons_cons]
    rcases List.infix_cons_iff.mp inside with front | behind
    · exact absent (front.trans (List.cons_prefix_cons.mpr ⟨rfl,begins⟩))
    · exact first behind

theorem occurrences_foreign (nonempty : marker ≠ []) {c : Char} (foreign : c ∉ marker)
    (rest : List Char) : occurrences marker (c :: rest) = occurrences marker rest :=
  occurrences_passed fun front => nonempty <|
    List.prefix_nil.mp ((prefix_separated foreign [] rest).mp front)

/-- Nothing occurs across a character that is not in the marker. -/
theorem occurrences_separated (nonempty : marker ≠ []) {c : Char} (foreign : c ∉ marker)
    (front back : List Char) :
    occurrences marker (front ++ c :: back) =
      occurrences marker front + occurrences marker back := by
  induction front using scan nonempty with
  | nil =>
    rw [List.nil_append,occurrences_foreign nonempty foreign]
    simp [occurrences]
  | found rest ih =>
    rw [List.append_assoc,occurrences_marker nonempty,occurrences_marker nonempty,ih]
    omega
  | passed d rest absent ih =>
    have still : ¬ marker <+: d :: (rest ++ c :: back) := fun front =>
      absent ((prefix_separated foreign (d :: rest) back).mp front)
    rw [List.cons_append,occurrences_passed still,occurrences_passed absent,ih]

end LedgerRehearsal.Text
