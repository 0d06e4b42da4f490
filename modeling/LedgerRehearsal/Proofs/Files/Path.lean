import LedgerRehearsal.Files.Path
import Mathlib.Data.List.TakeDrop
import Mathlib.Data.List.TakeWhile

/-! Extensions. A file name has an extension when a dot stands in it with something before the dot;
the extension is what stands behind the last one. -/
namespace LedgerRehearsal.Path

/-- A text that is cut at its first dot. -/
theorem span_dot_iff {text after before : List Char} {c : Char} :
    text.span (· ≠ '.') = (after,c :: before) ↔
      c = '.' ∧ '.' ∉ after ∧ text = after ++ '.' :: before := by
  rw [List.span_eq_takeWhile_dropWhile,Prod.mk.injEq]
  constructor
  · rintro ⟨rfl,rest⟩
    have dot := List.head?_dropWhile_not (fun c => decide (c ≠ '.')) text
    rw [rest] at dot
    obtain rfl : c = '.' := by simpa using dot
    refine ⟨rfl,fun member => by simpa using List.mem_takeWhile_imp member,?_⟩
    rw [← rest,List.takeWhile_append_dropWhile]
  · rintro ⟨rfl,plain,rfl⟩
    have passed : ∀ c ∈ after, decide (c ≠ '.') = true := by
      intro c member
      exact decide_eq_true fun same => plain (same ▸ member)
    rw [List.takeWhile_append_of_pos passed,List.dropWhile_append_of_pos passed]
    simp

variable {path : Path} {extension : String}

/-- The path ends in a file name that is some name, a dot and the extension. -/
def HasExtension (path : Path) (extension : String) : Prop :=
  ∃ stem, stem ≠ "" ∧ path.fileName? = some (stem ++ "." ++ extension)

theorem extension?_eq_some :
    path.extension? = some extension ↔ '.' ∉ extension.toList ∧ path.HasExtension extension := by
  constructor
  · intro found
    obtain ⟨name,named,found⟩ := Option.bind_eq_some_iff.mp found
    cases parts : name.toList.reverse.span (· ≠ '.') with
    | mk after before =>
      rw [parts] at found
      match before with
      | [] | [_] => contradiction
      | dot :: last :: stem =>
        obtain rfl := Option.some.inj found
        obtain ⟨rfl,plain,whole⟩ := span_dot_iff.mp parts
        have same : name = String.ofList (last :: stem).reverse ++ "." ++
            String.ofList after.reverse := by
          rw [← String.toList_inj,← List.reverse_inj,whole]
          simp
        exact ⟨by simpa using plain,_,by simp,named.trans (congrArg some same)⟩
  · rintro ⟨plain,stem,named,whole⟩
    refine Option.bind_eq_some_iff.mpr ⟨_,whole,?_⟩
    have parts : (stem ++ "." ++ extension).toList.reverse.span (· ≠ '.') =
        (extension.toList.reverse,'.' :: stem.toList.reverse) :=
      span_dot_iff.mpr ⟨rfl,by simpa using plain,by simp⟩
    rw [parts]
    have filled : stem.toList.reverse ≠ [] := by simpa using named
    obtain ⟨last,others,reversed⟩ := List.exists_cons_of_ne_nil filled
    rw [reversed]
    simp

end LedgerRehearsal.Path
