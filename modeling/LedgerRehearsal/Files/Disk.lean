import LedgerRehearsal.CommandLine.Job
import LedgerRehearsal.Json.Reader

/-!
The part of a disk that a command reads, as a tree of files. A place is known by the names that
lead to it, so links are followed only to see what stands behind them.
-/

namespace LedgerRehearsal.Disk

/-- The path of a place on the disk. -/
def pathOf (place : Place) : String := "/" ++ "/".intercalate place

/-- The places on the way of a path, the one that it leads to last. -/
def placesOn (files : Files) (path : Path) : List Place :=
  let start : Place := if path.isAbsolute then [] else files.workingDirectory
  let follow (places : List Place) (name : String) : List Place :=
    let here := places.head?.getD start
    (if name = ".." then here.dropLast else here ++ [name]) :: places
  (path.components.foldl follow [start]).reverse

/-- What is read at a path on the disk. -/
def readPath (path : String) : IO (Except FileError String) := do
  try
    match String.fromUTF8? (← IO.FS.readBinFile path) with
    | some text => return .ok text
    | none => return .error .notText
  catch _ => return .error .denied

/-- Takes over the file, the device or the directory at a place, but not what is in the directory.
Reading a device takes something out of it, so that is done only where it is wanted. -/
def takePlace (wanted : Bool) (files : Files) (place : Place) : IO Files := do
  try
    let path := (← IO.currentDir) / pathOf place
    match (← path.metadata).type with
    | .dir => return files.makeDirectories place
    | .file =>
      match ← readPath (pathOf place) with
      | .ok text => return files.put place (.text text)
      | .error .notText => return files.put place .binary
      | .error _ => return files.put place .closed
    | .symlink | .other =>
      let delivery ← if wanted then readPath (pathOf place) else pure (.error .noDevice)
      return files.put place (.special (Device.ofDelivery delivery))
  catch _ => return files

/-- Takes over what a path leads to, and the directories on its way. -/
def takePath (wanted : Bool) (files : Files) (path : Path) : IO Files :=
  (placesOn files path).foldlM (takePlace wanted) files

/-- Takes over everything below a place. Links that lead back to a directory on the way end there. -/
partial def takeTree (files : Files) (way : List String) (place : Place) : IO Files := do
  try
    let path ← IO.FS.realPath (pathOf place)
    if way.contains path.toString then return files
    if !(← path.isDir) then return ← takePlace false files place
    let entries ← path.readDir
    entries.foldlM (fun files entry => takeTree files (path.toString :: way) (place ++ [entry.fileName]))
      (files.makeDirectories place)
  catch _ => return files

/-- The files outside a tree that the documents in it name. -/
def takeNamed (files : Files) : IO Files :=
  files.entries.foldlM
    (fun files (place, content) =>
      match content with
      | .text text =>
        let dir : Path := ⟨pathOf place.dropLast⟩
        let named := ((Json.parse text).map namedFiles).getD []
        named.foldlM (fun files name => takePath true files (dir.join name)) files
      | .binary | .closed | .special _ | .directory => return files)
    files

/-- Nothing but the directories above the working directory. -/
def here : IO Files := do
  let place := (Path.mk (← IO.currentDir).toString).components
  return { Files.empty.makeDirectories place with workingDirectory := place }

/-- What the arguments of the program are about. -/
def forArguments (arguments : Arguments) : IO Files := do
  let files ← here
  let source : Path := ⟨arguments.source⟩
  let files ← takePath false files source
  let files ← takeTree files [] ((placesOn files source).getLast?.getD [])
  let files ← takeNamed files
  let files ← arguments.config.toList.foldlM (fun files path => takePath true files ⟨path⟩) files
  match arguments.command with
  | .compile _ output => takePath false files ⟨output⟩
  | .deploy .. | .test _ | .targets => return files

/-- What the expander needs for a file. -/
def forTemplates (path : Path) : IO Files := do takeNamed (← takePath true (← here) path)

/-- Writes every text that a command has changed, and sends what devices have received. -/
def writeChanges (before after : Files) : IO Unit :=
  after.entries.forM fun (place, content) => do
    if before.at? place ≠ some content then
      match content with
      | .text text | .special ⟨_, _, text⟩ => IO.FS.writeFile (pathOf place) text
      | .binary | .closed | .directory => return ()

end LedgerRehearsal.Disk
