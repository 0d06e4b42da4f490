import LedgerRehearsal.Manifest
import LedgerRehearsal.Proofs.Result
import Mathlib.Data.List.TakeDrop

/-! Names in directories. Joined to a path, a name stands behind what the path ends in, so it can be
told from any other name there, and taking it away again leaves the path. Followed in a tree, it is
the last of the names on the way. -/
namespace LedgerRehearsal

namespace Path

/-- A text that names one entry of a directory, and neither the directory itself nor the one
above. -/
structure IsName (name : String) : Prop where
  filled : name ≠ ""
  notDot : name ≠ "."
  notDots : name ≠ ".."
  single : '/' ∉ name.toList

/-- What stands in front of a name in a directory. -/
def lead (dir : Path) : List Char :=
  if dir.text.isEmpty ∨ dir.text.toList.getLast? = some '/' then dir.text.toList
  else dir.text.toList ++ ['/']

variable {dir : Path} {name : String}

theorem isName_of_valid (valid : isDirectoryName name = true) : IsName name := by
  simp only [isDirectoryName,Bool.and_eq_true,decide_eq_true_eq,Bool.not_eq_true',
    List.contains_eq_mem,decide_eq_false_iff_not] at valid
  obtain ⟨⟨⟨⟨filled,notDot⟩,notDots⟩,single⟩,-⟩ := valid
  exact ⟨filled,notDot,notDots,single⟩

theorem IsName.toList_ne_nil (named : IsName name) : name.toList ≠ [] := by
  simpa using named.filled

theorem toList_join (named : IsName name) : (dir.join name).text.toList = dir.lead ++ name.toList := by
  have relative : name.toList.head? ≠ some '/' := fun slash =>
    named.single (List.mem_of_mem_head? slash)
  unfold join lead
  rw [if_neg relative]
  split <;> simp

/-- Behind a name there is a slash before the next one. -/
theorem lead_join (named : IsName name) :
    (dir.join name).lead = dir.lead ++ name.toList ++ ['/'] := by
  have last : (dir.lead ++ name.toList).getLast? ≠ some '/' := by
    rw [List.getLast?_append_of_ne_nil _ named.toList_ne_nil]
    exact fun slash => named.single (List.mem_of_getLast? slash)
  have filled : ¬ (dir.join name).text.isEmpty = true := by
    rw [String.isEmpty_iff,← String.toList_inj,toList_join named]
    simp [named.filled]
  rw [lead,toList_join named,if_neg (not_or.mpr ⟨filled,last⟩)]

/-- Nothing is taken from the end of a name. -/
theorem trimEnd_name (named : IsName name) (rest : List Char) :
    trimEnd (name.toList.reverse ++ rest) = name.toList.reverse ++ rest := by
  have filled : name.toList.reverse ≠ [] := by simpa using named.toList_ne_nil
  have single : '/' ∉ name.toList.reverse := by simpa using named.single
  have notDot : name.toList.reverse ≠ ['.'] := fun same => named.notDot (by
    rw [← String.toList_inj,← List.reverse_inj,same]
    rfl)
  match name.toList.reverse,filled,single,notDot with
  | [c],_,single,notDot =>
    unfold trimEnd
    split <;> simp_all
  | c :: d :: cs,_,single,_ =>
    unfold trimEnd
    split <;> simp_all

/-- What stands above a name in a directory under another is that directory. -/
theorem parent?_join_join {inner : String} (named : IsName name) (named' : IsName inner) :
    ((dir.join name).join inner).parent? = some (dir.join name) := by
  have reversed : ((dir.join name).join inner).text.toList.reverse =
      inner.toList.reverse ++ '/' :: (name.toList.reverse ++ dir.lead.reverse) := by
    rw [toList_join named',lead_join named]
    simp
  have passed : ∀ c ∈ inner.toList.reverse, decide (c ≠ '/') = true := by
    intro c member
    exact decide_eq_true fun same => named'.single (List.mem_reverse.mp (same ▸ member))
  have above : trimEnd ('/' :: (name.toList.reverse ++ dir.lead.reverse)) =
      name.toList.reverse ++ dir.lead.reverse := by
    rw [trimEnd,trimEnd_name named,if_neg (by simp [named.filled])]
  unfold parent?
  rw [reversed,trimEnd_name named']
  split
  · simp_all
  · rename_i same
    have short := congrArg List.length same
    simp only [List.length_append,List.length_cons,List.length_reverse,List.length_nil] at short
    exact absurd (List.eq_nil_of_length_eq_zero (by omega)) named.toList_ne_nil
  · rw [List.dropWhile_append_of_pos passed,List.dropWhile_cons_of_neg (by simp),above]
    refine congrArg some ?_
    rw [Path.mk.injEq,← String.toList_inj,toList_join named]
    simp

theorem split_name {text : List Char} (single : '/' ∉ text) : split text = [text] := by
  induction text with
  | nil => rfl
  | cons c text ih =>
    obtain ⟨other,single⟩ := not_or.mp (mt List.mem_cons.mpr single)
    rw [split,if_neg (Ne.symm other),ih single]

theorem split_ne_nil (text : List Char) : split text ≠ [] := by
  cases text with
  | nil => exact nofun
  | cons c text =>
    rw [split]
    split
    · exact nofun
    · split <;> exact nofun

theorem split_append (front rest : List Char) :
    split (front ++ '/' :: rest) = split front ++ split rest := by
  induction front with
  | nil => rfl
  | cons c front ih =>
    rw [List.cons_append,split,split,ih]
    split
    · rfl
    · cases parts : split front with
      | nil => exact absurd parts (split_ne_nil front)
      | cons part parts => rfl

/-- A name is the last part of its path. What stands before it is the same for all names: the parts
of the directory, without the empty one behind a slash at its end. -/
theorem split_join (dir : Path) :
    ∃ before, (split dir.text.toList = before ∨ split dir.text.toList = before ++ [[]]) ∧
      ∀ name, IsName name → split (dir.join name).text.toList = before ++ [name.toList] := by
  by_cases closed : dir.text.isEmpty ∨ dir.text.toList.getLast? = some '/'
  · have leads : dir.lead = dir.text.toList := if_pos closed
    rcases closed with empty | last
    · have none : dir.text.toList = [] := by simpa using empty
      refine ⟨[],.inr (by rw [none]; rfl),fun name named => ?_⟩
      rw [toList_join named,leads,none,List.nil_append,split_name named.single]
      rfl
    · obtain ⟨front,whole⟩ := List.getLast?_eq_some_iff.mp last
      refine ⟨split front,.inr (by rw [whole,split_append]; rfl),fun name named => ?_⟩
      rw [toList_join named,leads,whole,List.append_assoc,List.singleton_append,split_append,
        split_name named.single]
  · refine ⟨split dir.text.toList,.inl rfl,fun name named => ?_⟩
    rw [toList_join named,lead,if_neg closed,List.append_assoc,List.singleton_append,split_append,
      split_name named.single]

theorem isAbsolute_join (named : IsName name) : (dir.join name).isAbsolute = dir.isAbsolute := by
  have relative : name.toList.head? ≠ some '/' := fun slash =>
    named.single (List.mem_of_mem_head? slash)
  unfold isAbsolute
  rw [toList_join named,lead,List.head?_append]
  split
  · cases dir.text.toList with
    | nil => exact (decide_eq_false relative).trans (decide_eq_false nofun).symm
    | cons c front => rfl
  · rename_i filled
    cases front : dir.text.toList with
    | nil => exact absurd (.inl (by simpa using front)) filled
    | cons c front => rfl

end Path

namespace Files

variable {files : Files} {path : Path} {route : Place × List String}

theorem route_eq_ok : files.route path = .ok route ↔
    '\x00' ∉ path.text.toList ∧ path.text ≠ "" ∧ path.text.utf8ByteSize ≤ maxPath ∧
      route = (if path.isAbsolute then [] else files.workingDirectory,
        (Path.split path.text.toList).map String.ofList) := by
  unfold Files.route
  split
  · rename_i nul
    exact ⟨nofun,fun fits => absurd (by simpa using nul) fits.1⟩
  · rename_i clean
    split
    · rename_i empty
      exact ⟨nofun,fun fits => absurd (by simpa using empty) fits.2.1⟩
    · rename_i filled
      split
      · rename_i long
        exact ⟨nofun,fun fits => absurd fits.2.2.1 (Nat.not_le.mpr long)⟩
      · rename_i short
        constructor
        · rintro ⟨⟩
          exact ⟨by simpa using clean,by simpa using filled,Nat.not_lt.mp short,rfl⟩
        · rintro ⟨-,-,-,rfl⟩
          rfl

/-- The names that lead to an entry of a directory end in its own, behind the same ones for all. -/
theorem route_join (files : Files) (dir : Path) :
    ∃ start before, ∀ name, Path.IsName name → ∀ route,
      files.route (dir.join name) = .ok route → route = (start,before ++ [name]) := by
  obtain ⟨before,-,parts⟩ := dir.split_join
  refine ⟨if dir.isAbsolute then [] else files.workingDirectory,
    before.map String.ofList,fun name named route routed => ?_⟩
  obtain ⟨-,-,-,rfl⟩ := route_eq_ok.mp routed
  rw [Path.isAbsolute_join named,parts name named]
  simp

end Files

end LedgerRehearsal
