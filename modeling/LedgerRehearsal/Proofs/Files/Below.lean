import LedgerRehearsal.Proofs.Files.Frame

/-! Paths below a directory. A path that is put together from names only leads down: it begins as the
path of the directory does, each of its further components is one of the names, and in every tree it
leads to the place that these names have below the directory. -/
namespace LedgerRehearsal

namespace Path

variable {dir root : Path} {name : String} {names : List String}

theorem components_join (named : IsName name) :
    (dir.join name).components = dir.components ++ [name] := by
  obtain ⟨before,parts,ends⟩ := dir.split_join
  have notDot : name.toList ≠ ['.'] := fun same => named.notDot (String.toList_inj.mp same)
  have kept : [name.toList].filter (fun part => decide (part ≠ [] ∧ part ≠ ['.'])) =
      [name.toList] :=
    List.filter_cons_of_pos (decide_eq_true ⟨named.toList_ne_nil,notDot⟩)
  rw [components,ends name named,components,List.filter_append,kept,List.map_append,
    List.map_singleton,String.ofList_toList]
  rcases parts with same | trailing
  · rw [same]
  · rw [trailing,List.filter_append,List.filter_cons_of_neg (by simp),List.filter_nil,
      List.append_nil]

/-- What is joined to a path never takes its place. -/
theorem text_join (dir : Path) (named : IsName name) :
    ∃ rest, (dir.join name).text = dir.text ++ rest := by
  have relative : name.toList.head? ≠ some '/' := fun slash =>
    named.single (List.mem_of_mem_head? slash)
  unfold join
  rw [if_neg relative]
  split
  · exact ⟨name,rfl⟩
  · exact ⟨"/" ++ name,String.append_assoc⟩

end Path

namespace Files

variable {files : Files} {dir root : Path} {name : String} {names : List String}
variable {here final place : Place}

/-- The place where the names under a directory are looked up. Without a path, the directory is the
one in which relative paths start. -/
def Starts (files : Files) (dir : Path) (home : Place) : Prop :=
  if dir.text = "" then home = files.workingDirectory else files.locate dir = .ok home

theorem walk_append_eq_ok : files.walk here (names ++ [name]) = .ok final ↔
    ∃ above, files.walk here names = .ok above ∧ files.step above name = .ok final := by
  rw [walk,List.foldlM_append,Except.bind_eq_ok]
  refine exists_congr fun above => and_congr_right fun _ => ?_
  rw [List.foldlM_cons]
  simp only [List.foldlM_nil,bind_pure]

theorem step_empty (directory : files.at? here = some .directory) :
    files.step here "" = .ok here := step_eq_ok.mpr (.stay directory (.inl rfl))

/-- A name is found in the place of its directory. -/
theorem locate_join (named : Path.IsName name) (located : files.locate (dir.join name) = .ok place) :
    ∃ home, files.Starts dir home ∧ place = home ++ [name] := by
  obtain ⟨before,parts,ends⟩ := dir.split_join
  obtain ⟨⟨start,names⟩,routed,walked⟩ := Except.bind_eq_ok.mp located
  obtain ⟨clean,-,short,same⟩ := route_eq_ok.mp routed
  rw [Path.isAbsolute_join named,ends name named,List.map_append,List.map_singleton,
    String.ofList_toList,Prod.mk.injEq] at same
  obtain ⟨rfl,rfl⟩ := same
  obtain ⟨home,led,stepped⟩ := walk_append_eq_ok.mp walked
  refine ⟨home,?_,step_name named stepped⟩
  have directory := (step_eq_ok.mp stepped).directory
  -- a slash at the end of the directory makes one more step, which stays there
  have led' : files.walk (if dir.isAbsolute then [] else files.workingDirectory)
      ((Path.split dir.text.toList).map String.ofList) = .ok home := by
    rcases parts with same | trailing
    · rw [same]
      exact led
    · rw [trailing,List.map_append]
      exact walk_append_eq_ok.mpr ⟨home,led,step_empty directory⟩
  unfold Starts
  split
  · rename_i empty
    rw [Path.isAbsolute,empty] at led'
    change files.walk files.workingDirectory ([] ++ [""]) = .ok home at led'
    obtain ⟨_,⟨⟩,stayed⟩ := walk_append_eq_ok.mp led'
    rw [step_empty (step_eq_ok.mp stayed).directory] at stayed
    exact (Except.ok.inj stayed).symm
  · rename_i filled
    obtain ⟨rest,whole⟩ := dir.text_join named
    rw [whole] at clean short
    refine Except.bind_eq_ok.mpr ⟨_,route_eq_ok.mpr ⟨fun nul => clean (by simp [nul]),filled,?_,rfl⟩,
      led'⟩
    rw [String.utf8ByteSize_append] at short
    omega

end Files

namespace Path

/-- A path from a directory down through names, and to nothing else. -/
structure Below (root : Path) (names : List String) (path : Path) : Prop where
  named : ∀ name ∈ names, IsName name
  text : path.text = String.ofList root.lead ++ "/".intercalate names
  components : path.components = root.components ++ names
  absolute : path.isAbsolute = root.isAbsolute
  place : ∀ files place, Files.locate files path = .ok place →
    ∃ home, files.Starts root home ∧ place = home ++ names

theorem below_join (named : IsName name) : Below root [name] (root.join name) where
  named := by simpa using named
  text := by rw [← String.toList_inj,toList_join named]; simp
  components := components_join named
  absolute := isAbsolute_join named
  place files place located := Files.locate_join named located

/-- Below a directory under the root is below the root. -/
theorem Below.under {path : Path} (below : Below (root.join name) names path) (named : IsName name)
    (filled : names ≠ []) : Below root (name :: names) path where
  named := List.forall_mem_cons.mpr ⟨named,below.named⟩
  text := by
    rw [below.text,lead_join named]
    cases names with
    | nil => contradiction
    | cons first rest => simp [← String.toList_inj]
  components := by rw [below.components,components_join named,List.append_assoc]; rfl
  absolute := below.absolute.trans (isAbsolute_join named)
  place files place located := by
    obtain ⟨inner,starts,rfl⟩ := below.place files place located
    have within : (root.join name).text ≠ "" := by
      rw [Ne,← String.toList_inj,toList_join named]
      simp [named.filled]
    unfold Files.Starts at starts
    rw [if_neg within] at starts
    obtain ⟨home,above,rfl⟩ := Files.locate_join named starts
    exact ⟨home,above,by simp⟩

/-- Names that are joined one after another lead down. -/
theorem below_foldl_join (named : ∀ name ∈ names, IsName name) (filled : names ≠ []) :
    Below root names (names.foldl join root) := by
  induction names generalizing root with
  | nil => contradiction
  | cons name names ih =>
    obtain ⟨first,rest⟩ := List.forall_mem_cons.mp named
    cases names with
    | nil => exact below_join first
    | cons next names => exact (ih rest nofun).under first nofun

theorem isName_json (single : '/' ∉ name.toList) : IsName (name ++ ".json") := by
  have other (text : String) (short : text.toList.getLast? ≠ some 'n') : name ++ ".json" ≠ text := by
    rintro rfl
    exact short (by simp)
  exact ⟨other _ (by decide),other _ (by decide),other _ (by decide),by simp [single]⟩

end Path

end LedgerRehearsal
