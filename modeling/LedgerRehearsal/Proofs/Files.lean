import LedgerRehearsal.Manifest
import LedgerRehearsal.Proofs.Result
import Mathlib.Data.List.TakeDrop

/-! Writing a file. A file that was written can be read under the same path, and it reads as the
text that was written. What a device is sent is read nowhere. -/
namespace LedgerRehearsal.Files

variable {files after : Files} {place : Place} {content : Content} {path : Path} {text : String}

theorem at?_set (different : place ≠ []) (other : Place) :
    (files.set place content).at? other =
      if other = place then some content else files.at? other := by
  unfold at? set
  by_cases same : other = place
  · subst same
    simp [different]
  · by_cases top : other = []
    · simp [top,Ne.symm different]
    · have kept : (files.entries.filter fun entry => decide (entry.1 ≠ place)).find?
          (fun entry => decide (entry.1 = other)) =
            files.entries.find? fun entry => decide (entry.1 = other) := by
        rw [List.find?_filter]
        refine congrArg (fun p => files.entries.find? p) (funext fun entry => ?_)
        by_cases found : entry.1 = other <;> simp [found,same]
      rw [if_neg top,if_neg top,if_neg same,
        List.find?_cons_of_neg (by simpa using Ne.symm same),kept]

/-- One place holds some content, which is no directory, and everything else is as it was. -/
structure Written (files after : Files) (place : Place) (content : Content) : Prop where
  solid : content ≠ .directory
  here : after.at? place = some content
  elsewhere : ∀ other, other ≠ place → after.at? other = files.at? other
  workingDirectory : after.workingDirectory = files.workingDirectory

theorem written_set (different : place ≠ []) (solid : content ≠ .directory) :
    files.Written (files.set place content) place content where
  solid := solid
  here := by rw [at?_set different,if_pos rfl]
  elsewhere other apart := by rw [at?_set different,if_neg apart]
  workingDirectory := rfl

/-- The steps that can be taken from a place, which has to be a directory. -/
inductive Steps (files : Files) (here : Place) : String → Place → Prop where
  | stay {name : String} : files.at? here = some .directory → name = "" ∨ name = "." →
      Steps files here name here
  | up : files.at? here = some .directory → Steps files here ".." here.dropLast
  | enter {name : String} : files.at? here = some .directory → name ≠ "" → name ≠ "." → name ≠ ".." →
      name.utf8ByteSize ≤ maxName → (files.at? (here ++ [name])).isSome →
      Steps files here name (here ++ [name])

theorem step_eq_ok {here next : Place} {name : String} :
    files.step here name = .ok next ↔ files.Steps here name next := by
  unfold step
  constructor
  · intro stepped
    split at stepped
    · rename_i directory
      split at stepped
      · cases stepped
        exact .stay directory ‹_›
      · rename_i apart
        obtain ⟨filled,notDot⟩ := not_or.mp apart
        split at stepped
        · rename_i above
          cases stepped
          exact above ▸ .up directory
        · split at stepped
          · contradiction
          · split at stepped
            · cases stepped
              exact .enter directory filled notDot ‹_› (Nat.le_of_not_lt ‹_›) ‹_›
            · contradiction
    · contradiction
  · intro steps
    cases steps with
    | stay directory same => simp only [directory,if_pos same]
    | up directory =>
      rw [directory]
      rfl
    | enter directory filled notDot notDots short held =>
      simp only [directory,filled,notDot,notDots,or_self,if_false,Nat.not_lt.mpr short,held,if_true]

theorem Steps.directory {here next : Place} {name : String} (steps : files.Steps here name next) :
    files.at? here = some .directory := by
  cases steps <;> assumption

/-- Where a walk could go before a file was put at a place, it can still go. -/
theorem step_set (different : place ≠ []) (free : files.at? place ≠ some .directory)
    {here next : Place} {name : String} (stepped : files.step here name = .ok next) :
    (files.set place content).step here name = .ok next := by
  have steps := step_eq_ok.mp stepped
  have apart : here ≠ place := by
    rintro rfl
    exact free steps.directory
  have same : (files.set place content).at? here = files.at? here := by
    rw [at?_set different,if_neg apart]
  refine step_eq_ok.mpr ?_
  cases steps with
  | stay directory stays => exact .stay (same.trans directory) stays
  | up directory => exact .up (same.trans directory)
  | enter directory filled notDot notDots short held =>
    refine .enter (same.trans directory) filled notDot notDots short ?_
    rw [at?_set different]
    split
    · rfl
    · exact held

theorem walk_set (different : place ≠ []) (free : files.at? place ≠ some .directory)
    {here final : Place} {names : List String} (walked : files.walk here names = .ok final) :
    (files.set place content).walk here names = .ok final := by
  unfold walk at walked ⊢
  induction names generalizing here with
  | nil => exact walked
  | cons name names ih =>
    rw [List.foldlM_cons] at walked ⊢
    obtain ⟨next,stepped,walked⟩ := Except.bind_eq_ok.mp walked
    exact Except.bind_eq_ok.mpr ⟨next,step_set different free stepped,ih walked⟩

/-- A place to which a path can be written: its directory is there, and it is none. -/
theorem placeForWriting_eq_ok {path : Path} (found : files.placeForWriting path = .ok place) :
    ∃ start before last dir, files.route path = .ok (start,before ++ [last]) ∧
      files.walk start before = .ok dir ∧ files.at? dir = some .directory ∧
      place = dir ++ [last] ∧ files.at? place ≠ some .directory ∧
      last ≠ "" ∧ last ≠ "." ∧ last ≠ ".." ∧ last.utf8ByteSize ≤ maxName := by
  obtain ⟨⟨start,names⟩,routed,found⟩ := Except.bind_eq_ok.mp found
  dsimp only at found
  have parts : names.reverse.takeWhile (fun name => decide (name = "")) ++
      names.reverse.dropWhile (fun name => decide (name = "")) = names.reverse :=
    List.takeWhile_append_dropWhile
  have first := List.head?_dropWhile_not (fun name => decide (name = "")) names.reverse
  rw [List.span_eq_takeWhile_dropWhile] at found
  -- behind the slashes at the end, which must be none, stand the name and what leads to it
  split at found
  · contradiction
  · rename_i last before named
    obtain ⟨dir,walked,found⟩ := Except.bind_eq_ok.mp found
    split at found
    · contradiction
    rename_i directory
    split at found
    · contradiction
    rename_i plain
    split at found
    · contradiction
    rename_i short
    split at found
    · contradiction
    rename_i free
    obtain rfl := Except.ok.inj found
    dsimp only at named
    rw [named] at first parts
    obtain ⟨slashes,dots⟩ := not_or.mp plain
    obtain ⟨notDot,notDots⟩ := not_or.mp dots
    have clean : names.reverse.takeWhile (fun name => decide (name = "")) = [] :=
      not_not.mp slashes
    have whole : names = before.reverse ++ [last] := by
      rw [clean,List.nil_append] at parts
      rw [← List.reverse_reverse names,← parts,List.reverse_cons]
    have filled : last ≠ "" := by simpa using first
    exact ⟨start,before.reverse,last,dir,whole ▸ routed,walked,not_not.mp directory,rfl,free,filled,
      notDot,notDots,Nat.le_of_not_lt short⟩

/-- What is put at the place that a path names for writing is found under the path. -/
theorem locate_set_of_placeForWriting {path : Path} (found : files.placeForWriting path = .ok place)
    (content : Content) : (files.set place content).locate path = .ok place := by
  obtain ⟨start,before,last,dir,routed,walked,directory,rfl,free,named⟩ :=
    placeForWriting_eq_ok found
  have different : dir ++ [last] ≠ [] := by simp
  have apart : dir ≠ dir ++ [last] := by simp
  have stepped : (files.set (dir ++ [last]) content).step dir last = .ok (dir ++ [last]) := by
    unfold step
    rw [at?_set different,if_neg apart,directory]
    simp [named,at?_set different,Nat.not_lt.mpr named.2.2.2]
  have walked' : (files.set (dir ++ [last]) content).walk start before = .ok dir :=
    walk_set different free walked
  refine Except.bind_eq_ok.mpr ⟨_,routed,?_⟩
  dsimp only
  unfold walk at walked' ⊢
  rw [List.foldlM_append]
  refine Except.bind_eq_ok.mpr ⟨dir,walked',?_⟩
  rw [List.foldlM_cons]
  exact Except.bind_eq_ok.mpr ⟨_,stepped,rfl⟩

theorem locate_of_route {start : Place} {before : List String} {name : String}
    (routed : files.route path = .ok (start,before ++ [name])) :
    files.locate path = files.walk start before >>= fun above => files.step above name := by
  unfold locate walk
  rw [routed]
  simp only [bind,Except.bind]
  rw [List.foldlM_append]
  simp only [List.foldlM_cons,List.foldlM_nil,bind_pure]
  rfl

/-- Where something can be written, something is found exactly when it is there. -/
theorem locate_of_placeForWriting (found : files.placeForWriting path = .ok place) :
    files.locate path = if (files.at? place).isSome then .ok place else .error .missing := by
  obtain ⟨start,before,last,above,routed,walked,directory,rfl,-,named⟩ := placeForWriting_eq_ok found
  rw [locate_of_route routed,walked]
  simp only [bind,Except.bind,step]
  rw [directory]
  simp [named,Nat.not_lt.mpr named.2.2.2]

theorem free_of_placeForWriting {path : Path} (found : files.placeForWriting path = .ok place) :
    place ≠ [] ∧ files.at? place ≠ some .directory := by
  obtain ⟨_,_,last,dir,-,-,-,rfl,free,-⟩ := placeForWriting_eq_ok found
  exact ⟨by simp,free⟩

/-- A device stands at the end of the path. -/
def IsDevice (files : Files) (path : Path) : Prop :=
  ∃ place device, files.locate path = .ok place ∧ files.at? place = some (.special device)

/-- What a place holds after a text was written there. -/
def taking (text : String) : Option Content → Content
  | some (.special device) => .special (device.write text)
  | _ => .text text

theorem taking_solid (text : String) (held : Option Content) : taking text held ≠ .directory := by
  unfold taking
  split <;> exact nofun

/-- A path under which a text can be written, and the place of it: nothing closed stands there, and
there is room for the text or no need of it. -/
structure Accepts (files : Files) (path : Path) (text : String) (place : Place) : Prop where
  found : files.placeForWriting path = .ok place
  free : files.at? place ≠ some .closed
  room : (∃ device, files.at? place = some (.special device)) ∨ files.hasRoom text = true

theorem write_accepted (accepts : files.Accepts path text place) :
    files.write path text = (.ok (),files.set place (taking text (files.at? place))) := by
  unfold write
  rw [accepts.found]
  dsimp only
  split
  · rename_i closed
    exact absurd closed accepts.free
  · rename_i held
    rw [held,taking]
  · rename_i other
    obtain ⟨device,held⟩ | room := accepts.room
    · exact absurd held (other device)
    · rw [if_pos room,taking]
      exact fun device held => other device held

theorem write_eq_ok :
    files.write path text = (.ok (),after) ↔ ∃ place, files.Accepts path text place ∧
      after = files.set place (taking text (files.at? place)) := by
  constructor
  · intro written
    have accepted : ∃ place, files.Accepts path text place := by
      unfold write at written
      split at written
      · cases written
      · rename_i place found
        split at written
        · cases written
        · rename_i device held
          exact ⟨place,found,by rw [held]; exact nofun,.inl ⟨device,held⟩⟩
        · rename_i free _
          split at written
          · rename_i room
            exact ⟨place,found,free,.inr room⟩
          · cases written
    obtain ⟨place,accepts⟩ := accepted
    exact ⟨place,accepts,(congrArg Prod.snd ((write_accepted accepts).symm.trans written)).symm⟩
  · rintro ⟨place,accepts,rfl⟩
    exact write_accepted accepts

/-- Only the place that a path names for writing can be changed by writing under the path. -/
theorem write_elsewhere (found : files.placeForWriting path = .ok place) {other : Place}
    (apart : other ≠ place) : (files.write path text).2.at? other = files.at? other := by
  have different := (free_of_placeForWriting found).1
  unfold write
  rw [found]
  dsimp only
  split
  · rfl
  · rw [at?_set different,if_neg apart]
  · split <;> rw [at?_set different,if_neg apart]

theorem read_eq_of_at? (located : files.locate path = .ok place)
    (held : files.at? place = some (.text text)) : files.read path = .ok text := by
  rw [read,located]
  simp only [bind,Except.bind,held]

/-- What can be read is the text of a file or what a device delivers. -/
theorem read_eq_ok : files.read path = .ok text ↔ ∃ place, files.locate path = .ok place ∧
    (files.at? place = some (.text text) ∨
      ∃ device, files.at? place = some (.special device) ∧ device.read = .ok text) := by
  rw [read,Except.bind_eq_ok]
  refine exists_congr fun place => and_congr_right fun _ => ?_
  split <;> simp_all

theorem taking_eq_text (found : files.placeForWriting path = .ok place)
    (plain : ¬ files.IsDevice path) : taking text (files.at? place) = .text text := by
  unfold taking
  split
  · rename_i device held
    refine absurd ⟨place,device,?_,held⟩ plain
    rw [locate_of_placeForWriting found,held]
    rfl
  · rfl

theorem read_write (written : files.write path text = (.ok (),after))
    (plain : ¬ files.IsDevice path) : after.read path = .ok text := by
  obtain ⟨place,accepts,rfl⟩ := write_eq_ok.mp written
  have solid : Content.text text ≠ .directory := nofun
  rw [taking_eq_text accepts.found plain]
  exact read_eq_of_at? (locate_set_of_placeForWriting accepts.found _)
    (written_set (free_of_placeForWriting accepts.found).1 solid).here

/-- Where nothing stands, no device does. -/
theorem plain_of_missing (missing : files.exists? path = false) : ¬ files.IsDevice path := by
  rintro ⟨place,_,located,-⟩
  rw [exists?,located] at missing
  contradiction

theorem exists_of_read (given : files.read path = .ok text) : files.exists? path = true := by
  obtain ⟨place,located,-⟩ := read_eq_ok.mp given
  rw [exists?,located]
  rfl

theorem isFile_of_read (given : files.read path = .ok text) (plain : ¬ files.IsDevice path) :
    files.isFile path = true := by
  obtain ⟨place,located,held | ⟨device,held,-⟩⟩ := read_eq_ok.mp given
  · rw [isFile,located]
    simp only [held]
    rfl
  · exact absurd ⟨place,device,located,held⟩ plain

end LedgerRehearsal.Files

namespace LedgerRehearsal

open Json

variable {files : Files} {path : Path}

variable [Diagnostics]

theorem readJson_eq_ok {value : Value} :
    readJson files path = .ok value ↔
      ∃ text, files.read path = .ok text ∧ parse text = some value := by
  unfold readJson
  split
  · rename_i failed
    simp [failed]
  · rename_i text given
    split <;> simp_all

theorem readOptionalJson_eq_some {value : Value} :
    readOptionalJson files path = .ok (some value) ↔
      ∃ text, files.read path = .ok text ∧ parse text = some value := by
  rw [← readJson_eq_ok]
  unfold readOptionalJson
  split
  · rw [Except.map_eq_ok]
    simp
  · rename_i missing
    refine ⟨nofun,fun read => ?_⟩
    obtain ⟨text,given,-⟩ := readJson_eq_ok.mp read
    exact absurd (Files.exists_of_read given) missing

end LedgerRehearsal
