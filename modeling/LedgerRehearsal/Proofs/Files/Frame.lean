import LedgerRehearsal.Proofs.Files
import LedgerRehearsal.Proofs.Files.Name

/-! What a written file changes. A path that does not lead to the file reads as before, when the file
was there already, when the path stands beside it in one directory, or when something could be read
under the path at all. -/
namespace LedgerRehearsal

namespace Files

variable {files after : Files} {place here next final : Place} {name : String} {content : Content}

/-- A step depends on whether it starts in a directory and on whether there is something to enter. -/
theorem step_congr (start : files.at? here = some .directory ↔ after.at? here = some .directory)
    (enter : (files.at? (here ++ [name])).isSome = (after.at? (here ++ [name])).isSome) :
    files.step here name = after.step here name := by
  by_cases directory : files.at? here = some .directory
  · unfold step
    rw [directory,start.mp directory,enter]
  · have blocked := mt start.mpr directory
    unfold step
    split
    · contradiction
    · rfl

namespace Written

variable (written : files.Written after place content)

include written

theorem ne_of_directory (directory : after.at? here = some .directory) : here ≠ place := by
  rintro rfl
  exact written.solid (Option.some.inj (written.here.symm.trans directory))

/-- A step that does not enter the new content could be taken before. -/
theorem step_before (stepped : after.step here name = .ok next) (apart : next ≠ place) :
    files.step here name = .ok next := by
  have steps := step_eq_ok.mp stepped
  have same := written.elsewhere here (written.ne_of_directory steps.directory)
  refine step_eq_ok.mpr ?_
  cases steps with
  | stay directory stays => exact .stay (same.symm.trans directory) stays
  | up directory => exact .up (same.symm.trans directory)
  | enter directory filled notDot notDots short held =>
    refine .enter (same.symm.trans directory) filled notDot notDots short ?_
    rwa [← written.elsewhere _ apart]

/-- A way that does not end at the new content was there before. -/
theorem walk_before {names : List String} (walked : after.walk here names = .ok final)
    (apart : final ≠ place) : files.walk here names = .ok final := by
  unfold walk at walked ⊢
  induction names generalizing here with
  | nil => exact walked
  | cons name names ih =>
    rw [List.foldlM_cons] at walked ⊢
    obtain ⟨next,stepped,walked⟩ := Except.bind_eq_ok.mp walked
    refine Except.bind_eq_ok.mpr ⟨next,written.step_before stepped ?_,ih walked⟩
    -- what is no directory is no place to go on from, so a way over it would have to end there
    rintro rfl
    cases names with
    | nil => exact apart (Except.ok.inj walked).symm
    | cons name names =>
      rw [List.foldlM_cons] at walked
      obtain ⟨_,onward,-⟩ := Except.bind_eq_ok.mp walked
      exact written.ne_of_directory (step_eq_ok.mp onward).directory rfl

theorem route_same (path : Path) : after.route path = files.route path := by
  unfold route
  rw [written.workingDirectory]

/-- What is not found at the new content was found before. -/
theorem locate_before {path : Path} (located : after.locate path = .ok final)
    (apart : final ≠ place) : files.locate path = .ok final := by
  obtain ⟨⟨start,names⟩,routed,walked⟩ := Except.bind_eq_ok.mp located
  rw [written.route_same] at routed
  exact Except.bind_eq_ok.mpr ⟨_,routed,written.walk_before walked apart⟩

theorem read_before {path : Path} {given : String} (read : after.read path = .ok given)
    (apart : after.locate path ≠ .ok place) : files.read path = .ok given := by
  obtain ⟨final,located,held⟩ := read_eq_ok.mp read
  have other : final ≠ place := fun same => apart (same ▸ located)
  refine read_eq_ok.mpr ⟨final,written.locate_before located other,?_⟩
  rwa [← written.elsewhere final other]

/-- In the place of another file or device the new content changes no way. -/
theorem locate_replaced {old : Content} (held : files.at? place = some old)
    (file : old ≠ .directory) (path : Path) :
    after.locate path = files.locate path := by
  have known (other : Place) : after.at? other = some .directory ↔ files.at? other = some .directory := by
    by_cases same : other = place
    · rw [same,held,written.here]
      simp [file,written.solid]
    · rw [written.elsewhere other same]
  have there (other : Place) : (after.at? other).isSome = (files.at? other).isSome := by
    by_cases same : other = place
    · rw [same,held,written.here]
      rfl
    · rw [written.elsewhere other same]
  have step : after.step = files.step := by
    funext here name
    exact step_congr (known here) (there _)
  unfold locate walk
  rw [step]
  simp only [written.route_same]

/-- A file that is found where it was, and not at the new text, reads as it did. -/
theorem read_same {path : Path} (same : after.locate path = files.locate path)
    (apart : files.locate path ≠ .ok place) : after.read path = files.read path := by
  unfold read
  rw [same]
  cases located : files.locate path with
  | error error => rfl
  | ok final =>
    have other : final ≠ place := fun same => apart (same ▸ located)
    simp only [bind,Except.bind,written.elsewhere final other]

end Written

section

variable {dir path : Path} {other : String}

theorem step_name (named : Path.IsName name) (stepped : files.step here name = .ok next) :
    next = here ++ [name] := by
  cases step_eq_ok.mp stepped with
  | stay _ stays => exact absurd stays (not_or.mpr ⟨named.filled,named.notDot⟩)
  | up _ => exact absurd rfl named.notDots
  | enter => rfl

/-- Beside a written file everything is as it was. -/
theorem locate_beside (solid : content ≠ .directory) (named : Path.IsName name)
    (found : files.placeForWriting (dir.join name) = .ok place) (named' : Path.IsName other)
    (apart : other ≠ name) :
    (files.set place content).locate (dir.join other) = files.locate (dir.join other) ∧
      files.locate (dir.join other) ≠ .ok place := by
  obtain ⟨different,free⟩ := free_of_placeForWriting found
  have written : files.Written (files.set place content) place content :=
    written_set different solid
  obtain ⟨start,before,way⟩ := files.route_join dir
  obtain ⟨start',before',last,above,routed,walked,directory,rfl,-⟩ := placeForWriting_eq_ok found
  obtain ⟨rfl,same⟩ := Prod.ext_iff.mp (way name named _ routed)
  obtain ⟨rfl,⟨⟩⟩ := List.append_inj' same rfl
  have walked' : (files.set (above ++ [name]) content).walk start' before' = .ok above :=
    walk_set different free walked
  cases routed' : files.route (dir.join other) with
  | error error =>
    have failed : files.locate (dir.join other) = .error error := by
      rw [locate,routed']
      rfl
    refine ⟨?_,by rw [failed]; exact nofun⟩
    rw [failed,locate,written.route_same,routed']
    rfl
  | ok route =>
    obtain rfl := way other named' _ routed'
    have beside : above ++ [other] ≠ above ++ [name] := fun same => apart (by simpa using same)
    rw [locate_of_route routed',locate_of_route ((written.route_same _).trans routed'),walked',walked]
    refine ⟨step_congr ?_ ?_,fun stepped => beside (step_name named' stepped).symm⟩
    · rw [written.elsewhere above (by simp)]
    · rw [written.elsewhere _ beside]

theorem read_beside (solid : content ≠ .directory) (named : Path.IsName name)
    (found : files.placeForWriting (dir.join name) = .ok place) (named' : Path.IsName other)
    (apart : other ≠ name) :
    (files.set place content).read (dir.join other) = files.read (dir.join other) ∧
      (files.set place content).exists? (dir.join other) = files.exists? (dir.join other) := by
  obtain ⟨same,elsewhere⟩ := locate_beside solid named found named' apart
  exact ⟨(written_set (free_of_placeForWriting found).1 solid).read_same same elsewhere,
    congrArg Except.toBool same⟩

section

variable {old : String} (found : files.placeForWriting path = .ok place)
  (held : files.read path = .ok old)

include found held

theorem locate_of_read : files.locate path = .ok place := by
  rw [locate_of_placeForWriting found,if_pos]
  by_contra nothing
  rw [read,locate_of_placeForWriting found,if_neg nothing] at held
  contradiction

/-- Where something else is put in the place of what could be read, every path leads where it led. -/
theorem locate_set (solid : content ≠ .directory) (other : Path) :
    (files.set place content).locate other = files.locate other := by
  have written : files.Written (files.set place content) place content :=
    written_set (free_of_placeForWriting found).1 solid
  obtain ⟨final,located,there⟩ := read_eq_ok.mp held
  obtain rfl := Except.ok.inj (located.symm.trans (locate_of_read found held))
  obtain there | ⟨device,there,-⟩ := there
  all_goals exact written.locate_replaced there nofun other

/-- Then what is found elsewhere reads as it did. -/
theorem read_replaced (solid : content ≠ .directory) {other : Path}
    (apart : files.locate other ≠ .ok place) :
    (files.set place content).read other = files.read other :=
  (written_set (free_of_placeForWriting found).1 solid).read_same (locate_set found held solid other)
    apart

end

/-- What a device is sent is read nowhere. -/
theorem read_device {device : Device} (found : files.placeForWriting path = .ok place)
    (held : files.at? place = some (.special device)) (text : String) (other : Path) :
    (files.set place (.special (device.write text))).read other = files.read other := by
  have solid : Content.special (device.write text) ≠ .directory := nofun
  have written : files.Written (files.set place (.special (device.write text))) place _ :=
    written_set (free_of_placeForWriting found).1 solid
  have same := written.locate_replaced held nofun other
  by_cases here : files.locate other = .ok place
  · rw [read,read,same,here]
    simp only [bind,Except.bind,written.here,held]
    rfl
  · exact written.read_same same here

theorem read_write_device {text : String} (written : files.write path text = (.ok (),after))
    (device : files.IsDevice path) (other : Path) : after.read other = files.read other := by
  obtain ⟨place,⟨found,-,-⟩,rfl⟩ := write_eq_ok.mp written
  obtain ⟨place',device,located,held⟩ := device
  obtain rfl : place' = place := by
    rw [locate_of_placeForWriting found] at located
    split at located
    · exact (Except.ok.inj located).symm
    · cases located
  rw [held,taking]
  exact read_device found held text other

/-- Next to a new file everything can be read that could be. -/
theorem read_set {other : Path} {given : String} (found : files.placeForWriting path = .ok place)
    (missing : files.exists? path = false) (solid : content ≠ .directory)
    (read : files.read other = .ok given) : (files.set place content).read other = .ok given := by
  obtain ⟨different,free⟩ := free_of_placeForWriting found
  obtain ⟨final,located,held⟩ := read_eq_ok.mp read
  have apart : final ≠ place := by
    rintro rfl
    rw [exists?,locate_of_placeForWriting found] at missing
    obtain held | ⟨_,held,-⟩ := held
    all_goals
      rw [held] at missing
      contradiction
  obtain ⟨⟨start,names⟩,routed,walked⟩ := Except.bind_eq_ok.mp located
  have located' : (files.set place content).locate other = .ok final :=
    Except.bind_eq_ok.mpr ⟨_,routed,walk_set different free walked⟩
  refine read_eq_ok.mpr ⟨final,located',?_⟩
  rwa [(written_set different solid).elsewhere final apart]

end

end Files

end LedgerRehearsal
