/-!
Occurrences of a marker in a text, leftmost first and never overlapping. Cutting the text at them
leaves one piece more than there are occurrences, and joining the pieces with the marker gives the
text back.
-/

namespace LedgerRehearsal.Text

/-- The pieces of a text between the occurrences of a marker. An empty marker occurs nowhere. -/
def pieces (marker : List Char) (text : List Char) : List (List Char) :=
  match text with
  | [] => [[]]
  | c :: rest =>
    if marker ≠ [] ∧ marker.isPrefixOf (c :: rest) then
      [] :: pieces marker ((c :: rest).drop marker.length)
    else
      match pieces marker rest with
      | [] => [[c]]
      | piece :: others => (c :: piece) :: others
termination_by text.length
decreasing_by
  · rename_i h
    have := List.length_pos_iff.mpr h.1
    simp only [List.length_drop, List.length_cons]
    omega
  · simp

/-- How often a marker occurs. -/
def occurrences (marker text : List Char) : Nat := (pieces marker text).length - 1

/-- A part stands somewhere in a text. The empty part stands in every text. -/
def includes (part : List Char) : (text : List Char) → Bool
  | [] => part.isEmpty
  | c :: rest => part.isPrefixOf (c :: rest) || includes part rest

theorem pieces_ne_nil (marker text : List Char) : pieces marker text ≠ [] := by
  unfold pieces
  split
  · simp
  · split
    · simp
    · split <;> simp

end LedgerRehearsal.Text
