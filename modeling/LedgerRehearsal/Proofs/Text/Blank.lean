import LedgerRehearsal.Text.Blank
import Mathlib.Data.List.TakeWhile

/-! Trimming. What is left of a text stands between blanks and neither begins nor ends with one. -/
namespace LedgerRehearsal.Text

/-- A text, and what is left of it without the blanks at both ends. -/
structure Trims (text rest : List Char) : Prop where
  around : ∃ before after, text = before ++ (rest ++ after) ∧
    (∀ c ∈ before, isBlank c = true) ∧ ∀ c ∈ after, isBlank c = true
  first : ∀ c ∈ rest.head?, isBlank c = false
  last : ∀ c ∈ rest.getLast?, isBlank c = false

theorem trims_trim (text : List Char) : Trims text (trim text) := by
  let inner := text.dropWhile isBlank
  have front : text = text.takeWhile isBlank ++ inner := List.takeWhile_append_dropWhile.symm
  have back : inner = trim text ++ (inner.reverse.takeWhile isBlank).reverse := by
    rw [trim,← List.reverse_append,List.takeWhile_append_dropWhile,List.reverse_reverse]
  refine ⟨⟨text.takeWhile isBlank,(inner.reverse.takeWhile isBlank).reverse,?_,?_,?_⟩,?_,?_⟩
  · rw [← back,← front]
  · exact fun c member => List.mem_takeWhile_imp member
  · exact fun c member => List.mem_takeWhile_imp (List.mem_reverse.mp member)
  · intro c begins
    -- what is left begins where the blanks at the front end
    have whole : inner.head? = some c := by rw [back,List.head?_append,begins]; rfl
    have solid := List.head?_dropWhile_not isBlank text
    rw [whole] at solid
    exact solid
  · intro c ends
    rw [trim,List.getLast?_reverse] at ends
    have solid := List.head?_dropWhile_not isBlank inner.reverse
    rw [ends] at solid
    exact solid

end LedgerRehearsal.Text
