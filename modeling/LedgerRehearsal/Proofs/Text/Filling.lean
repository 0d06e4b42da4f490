import LedgerRehearsal.Text.Occurrence

/-! Putting texts in the place of the occurrences of a marker. The occurrences are found from left
to right, never overlapping, and what is put in their place is not searched again, so all are
replaced at once. -/
namespace LedgerRehearsal.Text

/-- The text with values in the place of its first occurrences of a marker, and the values that are
left over. -/
def fill (marker text : List Char) (values : List (List Char)) :
    List Char × List (List Char) :=
  match text, values with
  | [], values => ([],values)
  | text, [] => (text,[])
  | c :: rest, value :: values =>
    if marker ≠ [] ∧ marker.isPrefixOf (c :: rest) then
      let (filled,left) := fill marker ((c :: rest).drop marker.length) values
      (value ++ filled,left)
    else
      let (filled,left) := fill marker rest (value :: values)
      (c :: filled,left)
termination_by text.length
decreasing_by
  · rename_i found
    have := List.length_pos_iff.mpr found.1
    simp only [List.length_drop,List.length_cons]
    omega
  · simp

variable {marker : List Char}

/-- A text is searched from left to right: the marker stands at its front, or its first character is
passed over. -/
@[elab_as_elim]
theorem scan {motive : List Char → Prop} (nonempty : marker ≠ []) (text : List Char)
    (nil : motive [])
    (found : ∀ rest, motive rest → motive (marker ++ rest))
    (passed : ∀ c rest, ¬ marker <+: c :: rest → motive rest → motive (c :: rest)) :
    motive text := by
  induction length : text.length using Nat.strongRecOn generalizing text with
  | ind n ih =>
    subst length
    by_cases front : marker <+: text
    · obtain ⟨rest,rfl⟩ := front
      have shorter : rest.length < (marker ++ rest).length := by
        have := List.length_pos_iff.mpr nonempty
        rw [List.length_append]
        omega
      exact found rest (ih _ shorter rest rfl)
    · cases text with
      | nil => exact nil
      | cons c rest => exact passed c rest front (ih _ (Nat.lt_succ_self _) rest rfl)

@[simp] theorem pieces_nil : pieces marker [] = [[]] := by
  unfold pieces
  rfl

theorem pieces_marker (nonempty : marker ≠ []) (rest : List Char) :
    pieces marker (marker ++ rest) = [] :: pieces marker rest := by
  obtain ⟨c,tail,rfl⟩ := List.exists_cons_of_ne_nil nonempty
  rw [List.cons_append,pieces,← List.cons_append,if_pos ⟨nonempty,by simp⟩,List.drop_left]

theorem pieces_passed {c : Char} {rest : List Char} (absent : ¬ marker <+: c :: rest) :
    pieces marker (c :: rest) = (pieces marker rest).modifyHead (c :: ·) := by
  rw [pieces,if_neg fun found => absent (List.isPrefixOf_iff_prefix.mp found.2)]
  cases others : pieces marker rest with
  | nil => exact absurd others (pieces_ne_nil marker rest)
  | cons piece others => rfl

@[simp] theorem fill_nil (values : List (List Char)) : fill marker [] values = ([],values) := by
  cases values <;> rw [fill]

@[simp] theorem fill_none (text : List Char) : fill marker text [] = (text,[]) := by
  cases text <;> simp [fill]

theorem fill_marker (nonempty : marker ≠ []) (rest value : List Char) (values : List (List Char)) :
    fill marker (marker ++ rest) (value :: values) =
      (value ++ (fill marker rest values).1,(fill marker rest values).2) := by
  obtain ⟨c,tail,rfl⟩ := List.exists_cons_of_ne_nil nonempty
  rw [List.cons_append,fill,← List.cons_append,if_pos ⟨nonempty,by simp⟩,List.drop_left]

theorem fill_passed {c : Char} {rest : List Char} (absent : ¬ marker <+: c :: rest)
    (values : List (List Char)) :
    fill marker (c :: rest) values =
      (c :: (fill marker rest values).1,(fill marker rest values).2) := by
  cases values with
  | nil => simp
  | cons value values =>
    rw [fill,if_neg fun found => absent (List.isPrefixOf_iff_prefix.mp found.2)]

theorem occurrences_marker (nonempty : marker ≠ []) (rest : List Char) :
    occurrences marker (marker ++ rest) = occurrences marker rest + 1 := by
  have := List.length_pos_iff.mpr (pieces_ne_nil marker rest)
  rw [occurrences,occurrences,pieces_marker nonempty,List.length_cons]
  omega

theorem occurrences_passed {c : Char} {rest : List Char} (absent : ¬ marker <+: c :: rest) :
    occurrences marker (c :: rest) = occurrences marker rest := by
  rw [occurrences,occurrences,pieces_passed absent,List.length_modifyHead]

/-- Each occurrence uses up one value. -/
theorem fill_left (nonempty : marker ≠ []) (text : List Char) (values : List (List Char)) :
    (fill marker text values).2 = values.drop (occurrences marker text) := by
  induction text using scan nonempty generalizing values with
  | nil => simp [occurrences]
  | found rest ih =>
    cases values with
    | nil => simp
    | cons value values =>
      rw [fill_marker nonempty,occurrences_marker nonempty,ih,List.drop_succ_cons]
  | passed c rest absent ih => rw [fill_passed absent,occurrences_passed absent,ih]

example : fill ['a','b'] ['a','b','a','b','a','b'] [['a'],['a','b']] =
    (['a','a','b','a','b'],[]) := by decide +kernel

/-- The marker is put in its own place. -/
theorem fill_replicate (nonempty : marker ≠ []) (text : List Char) (count : Nat) :
    (fill marker text (List.replicate count marker)).1 = text := by
  induction text using scan nonempty generalizing count with
  | nil => simp
  | found rest ih =>
    cases count with
    | zero => simp
    | succ count => rw [List.replicate_succ,fill_marker nonempty,ih]
  | passed c rest absent ih => rw [fill_passed absent,ih]

theorem fill_absent {text : List Char} (absent : ¬ marker <:+: text) (values : List (List Char)) :
    fill marker text values = (text,values) := by
  induction text with
  | nil => simp
  | cons c rest ih =>
    rw [fill_passed fun front => absent front.isInfix,
      ih fun inside => absent (inside.trans (List.suffix_cons c rest).isInfix)]

/-- A character that is not in the marker parts its occurrences. -/
theorem prefix_separated {c : Char} (foreign : c ∉ marker) (front back : List Char) :
    marker <+: front ++ c :: back ↔ marker <+: front := by
  constructor
  · rintro ⟨rest,whole⟩
    rcases List.append_eq_append_iff.mp whole with ⟨more,rfl,-⟩ | ⟨more,rfl,same⟩
    · exact List.prefix_append _ _
    · cases more with
      | nil => simp
      | cons d more =>
        obtain ⟨rfl,-⟩ := List.cons.inj same
        exact absurd (List.mem_append_right _ List.mem_cons_self) foreign
  · intro inside
    exact inside.trans (List.prefix_append _ _)

theorem fill_foreign (nonempty : marker ≠ []) {c : Char} (foreign : c ∉ marker) (rest : List Char)
    (values : List (List Char)) :
    fill marker (c :: rest) values =
      (c :: (fill marker rest values).1,(fill marker rest values).2) :=
  fill_passed (fun front => nonempty <|
    List.prefix_nil.mp ((prefix_separated foreign [] rest).mp front)) values

/-- What stands before such a character is filled on its own. -/
theorem fill_separated (nonempty : marker ≠ []) {c : Char} (foreign : c ∉ marker)
    (front back : List Char) (values : List (List Char)) :
    fill marker (front ++ c :: back) values =
      ((fill marker front values).1 ++ c :: (fill marker back (fill marker front values).2).1,
        (fill marker back (fill marker front values).2).2) := by
  induction front using scan nonempty generalizing values with
  | nil => simp [fill_foreign nonempty foreign]
  | found rest ih =>
    cases values with
    | nil => simp
    | cons value values => simp [List.append_assoc,fill_marker nonempty,ih]
  | passed d rest absent ih =>
    have still : ¬ marker <+: d :: (rest ++ c :: back) := fun front =>
      absent ((prefix_separated foreign (d :: rest) back).mp front)
    rw [List.cons_append,fill_passed still,fill_passed absent,ih]
    rfl

end LedgerRehearsal.Text
