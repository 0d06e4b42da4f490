import LedgerRehearsal.Files.Path

/-!
A tree of files as a value. An entry is known by the names that lead to it from the top; a file
holds a text, or bytes that are none, or it is closed to us. A pipe or a device stands in the tree as
well, but it is no file. A path is followed name by name from the top or from the working directory:
every name, an empty one included, needs a directory to be looked up in, so a file with a slash
behind it is no file.
-/

namespace LedgerRehearsal

/-- Why a path cannot be read or written. -/
inductive FileError where
  | missing
  | notDirectory
  | isDirectory
  | nameTooLong
  | notText
  | nulInName
  | denied
  | noDevice
  | noSpace
deriving DecidableEq, Repr

def FileError.reason : FileError → String
  | missing => "No such file or directory (os error 2)"
  | notDirectory => "Not a directory (os error 20)"
  | isDirectory => "Is a directory (os error 21)"
  | nameTooLong => "File name too long (os error 36)"
  | notText => "stream did not contain valid UTF-8"
  | nulInName => "file name contained an unexpected NUL byte"
  | denied => "Permission denied (os error 13)"
  | noDevice => "No such device or address (os error 6)"
  | noSpace => "No space left on device (os error 28)"

/-- A pipe, a socket or a device. -/
structure Device where
  /-- Why it cannot be read, if it cannot. -/
  fault : Option FileError
  /-- What a reader gets. -/
  delivers : String
  /-- What was written to it. -/
  received : String
deriving DecidableEq, Repr

namespace Device

def read (device : Device) : Except FileError String :=
  match device.fault with
  | some error => .error error
  | none => .ok device.delivers

def ofDelivery : Except FileError String → Device
  | .ok text => ⟨none, text, ""⟩
  | .error error => ⟨some error, "", ""⟩

def write (device : Device) (text : String) : Device :=
  { device with received := device.received ++ text }

end Device

/-- What stands at a place in the tree. -/
inductive Content where
  | text (text : String)
  /-- Bytes that are no UTF-8 text. -/
  | binary
  /-- A file that may be neither read nor written. -/
  | closed
  | special (device : Device)
  | directory
deriving DecidableEq, Repr

def Content.ofBytes (bytes : ByteArray) : Content :=
  match String.fromUTF8? bytes with
  | some decoded => .text decoded
  | none => .binary

/-- A file in the narrow sense. -/
def Content.isRegular : Content → Bool
  | text _ | binary | closed => true
  | special _ | directory => false

/-- The names that lead to a place from the top. -/
abbrev Place := List String

structure Files where
  /-- Everything below the top, which is a directory and has no entry. -/
  entries : List (Place × Content)
  /-- Where relative paths start. -/
  workingDirectory : Place
  /-- How many bytes a file can be given, if there is a bound. -/
  room : Option Nat := none
deriving DecidableEq, Repr

namespace Files

def empty : Files := { entries := [], workingDirectory := [] }

def at? (files : Files) (place : Place) : Option Content :=
  if place = [] then some .directory else (files.entries.find? fun entry => entry.1 = place).map (·.2)

/-- Sets what stands at a place and leaves every other place as it is. -/
def set (files : Files) (place : Place) (content : Content) : Files :=
  { files with entries := (place, content) :: files.entries.filter fun entry => entry.1 ≠ place }

/-- Makes a directory of every place on the way that is not there. -/
def makeDirectories (files : Files) (place : Place) : Files :=
  (List.range place.length).foldl
    (fun files n =>
      let above := place.take (n + 1)
      if (files.at? above).isSome then files else files.set above .directory) files

/-- Puts content at a place, with the directories above it. -/
def put (files : Files) (place : Place) (content : Content) : Files :=
  (files.makeDirectories place.dropLast).set place content

/-- The longest name and the longest path, in bytes. -/
def maxName : Nat := 255
def maxPath : Nat := 4095

/-- Follows one name from a place. -/
def step (files : Files) (here : Place) (name : String) : Except FileError Place :=
  match files.at? here with
  | some .directory =>
    if name = "" ∨ name = "." then .ok here
    else if name = ".." then .ok here.dropLast
    else if maxName < name.utf8ByteSize then .error .nameTooLong
    else if (files.at? (here ++ [name])).isSome then .ok (here ++ [name])
    else .error .missing
  | _ => .error .notDirectory

def walk (files : Files) (here : Place) (names : List String) : Except FileError Place :=
  names.foldlM files.step here

/-- The place from which a path starts and the names that it then follows. -/
def route (files : Files) (path : Path) : Except FileError (Place × List String) :=
  if path.text.toList.contains '\x00' then .error .nulInName
  else if path.text.isEmpty then .error .missing
  else if maxPath < path.text.utf8ByteSize then .error .nameTooLong
  else .ok (if path.isAbsolute then [] else files.workingDirectory,
    (Path.split path.text.toList).map String.ofList)

/-- The place that a path leads to, if something stands there. -/
def locate (files : Files) (path : Path) : Except FileError Place := do
  let (start, names) ← files.route path
  files.walk start names

/-- The text of a file, or what a device delivers. -/
def read (files : Files) (path : Path) : Except FileError String := do
  let place ← files.locate path
  match files.at? place with
  | some (.text text) => .ok text
  | some .binary => .error .notText
  | some .closed => .error .denied
  | some (.special device) => device.read
  | some .directory => .error .isDirectory
  | none => .error .missing

/-- Something stands at the end of the path. -/
def exists? (files : Files) (path : Path) : Bool := (files.locate path).toBool

/-- A file stands at the end of the path, and neither a directory nor a device. -/
def isFile (files : Files) (path : Path) : Bool :=
  match files.locate path with
  | .ok place => (files.at? place).any Content.isRegular
  | .error _ => false

/-- The absolute path of the place that a path leads to. -/
def resolve (files : Files) (path : Path) : Except FileError Path := do
  let place ← files.locate path
  .ok ⟨"/" ++ "/".intercalate place⟩

/-- The place that a path names for writing: its directory must be there and it must not be one. -/
def placeForWriting (files : Files) (path : Path) : Except FileError Place := do
  let (start, names) ← files.route path
  let (slashes, named) := names.reverse.span (· = "")
  match named with
  | [] => .error .isDirectory
  | last :: before =>
    let dir ← files.walk start before.reverse
    if files.at? dir ≠ some .directory then .error .notDirectory
    else if slashes ≠ [] ∨ last = "." ∨ last = ".." then .error .isDirectory
    else if maxName < last.utf8ByteSize then .error .nameTooLong
    else if files.at? (dir ++ [last]) = some .directory then .error .isDirectory
    else .ok (dir ++ [last])

def hasRoom (files : Files) (text : String) : Bool := files.room.all (text.utf8ByteSize ≤ ·)

/-- What is left of a text where there is too little room for it. -/
def truncated (files : Files) (text : String) : Content :=
  .ofBytes (text.toUTF8.extract 0 (files.room.getD 0))

/-- Makes a file hold exactly a text, and the files after it. The file is emptied first, so when the
room runs out a part of the text is left in it. A device is sent the text. -/
def write (files : Files) (path : Path) (text : String) : Except FileError Unit × Files :=
  match files.placeForWriting path with
  | .error error => (.error error, files)
  | .ok place =>
    match files.at? place with
    | some .closed => (.error .denied, files)
    | some (.special device) => (.ok (), files.set place (.special (device.write text)))
    | _ =>
      if files.hasRoom text then (.ok (), files.set place (.text text))
      else (.error .noSpace, files.set place (files.truncated text))

end Files

end LedgerRehearsal
