import MeshScript.FileSystem
/-!
# MeshScript.FileSystem.Access -- following paths, reading, writing

A path is followed name by name from the root or the working directory
(`FileSystem.resolve`). Every name on the way must lead to a directory, perhaps through
a link; what the last one leads to is up to the operation. `.` stays, `..` goes to the
parent of the directory reached, and the parent of the root is the root.

The operations fail with the `FileError` that the system call would give. Reading and
writing go through a link to its goal (`FileSystem.follow`), removing takes the entry
itself. Writing creates or replaces a file; copying opens the source, then creates or
empties the target, then moves the bytes, so a file copied onto itself ends up empty.

Text files are UTF-8: `encode` and `decode?` are inverse to each other on texts.
-/

namespace MeshScript

/-- **Why a file cannot be accessed.** -/
inductive FileError
  | notFound
  | notDirectory
  | isDirectory
  | nameTooLong
  | tooManyLinks
  | nulInName
  | invalidEncoding
  deriving DecidableEq, Repr

/-- The wording of the system. -/
def FileError.message : FileError → Text
  | notFound => "No such file or directory (os error 2)".toList
  | notDirectory => "Not a directory (os error 20)".toList
  | isDirectory => "Is a directory (os error 21)".toList
  | nameTooLong => "File name too long (os error 36)".toList
  | tooManyLinks => "Too many levels of symbolic links (os error 40)".toList
  | nulInName => "file name contained an unexpected NUL byte".toList
  | invalidEncoding => "stream did not contain valid UTF-8".toList

/-! ## Text in files -/

/-- The bytes of a text in UTF-8. -/
def Text.encode (text : Text) : ByteArray :=
  (String.ofList text).toUTF8

/-- The text with these bytes, if they are valid UTF-8. -/
def Text.decode? (bytes : ByteArray) : Option Text :=
  bytes.utf8Decode?.map Array.toList

@[simp] theorem Text.decode?_encode (text : Text) :
    Text.decode? text.encode = some text := by
  simp [Text.decode?, Text.encode]

/-! ## Following a path -/

/-- **Where a path leads.** -/
inductive Spot
  /-- To a directory that exists: the root, or by a last name `.` or `..`. -/
  | directory (location : Location)
  /-- To an entry of a directory that exists; the entry need not exist. `slash` tells
  whether the path ends in a slash and so asks for a directory. -/
  | entry (location : Location) (slash : Bool)
  deriving DecidableEq

namespace FileSystem

/-- A name has at most this many bytes. -/
def nameLimit : Nat := 255

/-- The name is longer than names in the directory `here` may be. What the system fills
by itself looks a name of any length up. -/
def exceedsLimit (files : FileSystem) (here : Location) (name : Text) : Bool :=
  decide (nameLimit < name.byteLength) && files.node? here != some .generated

/-- A path has fewer bytes than this. -/
def pathLimit : Nat := 4096

/-- Where an entry of a directory leads: to itself, or to the goal of the link that it
is. A link to a link is taken for a circle. -/
def follow (files : FileSystem) (location : Location) : Except FileError Location :=
  match files.node? location with
  | some (.link goal) =>
    match files.node? goal with
    | some (.link _) => .error .tooManyLinks
    | _ => .ok goal
  | _ => .ok location

/-- What is no link leads to itself. -/
theorem follow_of_not_link {files : FileSystem} {location : Location}
    (direct : ∀ goal, files.node? location ≠ some (.link goal)) :
    files.follow location = .ok location := by
  unfold follow
  split
  · rename_i goal held
    exact absurd held (direct goal)
  · rfl

/-- One name on the way: to the directory it leads to from the directory `here`. -/
def enter (files : FileSystem) (here : Location) (name : Text) : Except FileError Location :=
  if name = ['.'] then .ok here
  else if name = ['.', '.'] then .ok here.dropLast
  else if files.exceedsLimit here name then .error .nameTooLong
  else do
    let place ← files.follow (here ++ [name])
    if files.isDirectory place then return place
    else if (files.node? place).isNone then throw .notFound
    else throw .notDirectory

/-- The last name of a path, looked at from the directory `here`. -/
def lastName (files : FileSystem) (here : Location) (name : Text) (slash : Bool) :
    Except FileError Spot :=
  if name = ['.'] then .ok (.directory here)
  else if name = ['.', '.'] then .ok (.directory here.dropLast)
  else if files.exceedsLimit here name then .error .nameTooLong
  else .ok (.entry (here ++ [name]) slash)

/-- **Follows a path** to the spot it names. -/
def resolve (files : FileSystem) (path : Path) : Except FileError Spot :=
  if '\x00' ∈ path then .error .nulInName
  else if path = [] then .error .notFound
  else if pathLimit ≤ path.byteLength then .error .nameTooLong
  else
    let start := if path.isAbsolute then [] else files.workingDirectory
    match path.names.getLast? with
    | none => .ok (.directory start)
    | some last => do
      let here ← path.names.dropLast.foldlM files.enter start
      files.lastName here last path.hasTrailingSlash

/-! ## Operations -/

/-- A regular file is at the location. -/
def holdsFile (files : FileSystem) (location : Location) : Bool :=
  match files.node? location with
  | some (.file _) => true
  | _ => false

/-- The path leads to a regular file. -/
def isFile (files : FileSystem) (path : Path) : Bool :=
  match files.resolve path with
  | .ok (.entry location false) =>
    match files.follow location with
    | .ok place => files.holdsFile place
    | .error _ => false
  | _ => false

/-- The location, if something other than a directory is there; `slash` tells whether a
directory is asked for. -/
def expectEntry (files : FileSystem) (location : Location) (slash : Bool) :
    Except FileError Location :=
  if files.isDirectory location then .error .isDirectory
  else if (files.node? location).isNone then .error .notFound
  else if slash then .error .notDirectory
  else .ok location

/-- The location that is read by the path: that of a file or a device. -/
def locateSource (files : FileSystem) (path : Path) : Except FileError Location := do
  match ← files.resolve path with
  | .directory _ => throw .isDirectory
  | .entry location slash => files.expectEntry (← files.follow location) slash

/-- The bytes of the file at the location; none of another node. -/
def bytesAt (files : FileSystem) (location : Location) : ByteArray :=
  match files.node? location with
  | some (.file bytes) => bytes
  | _ => .empty

/-- The bytes of a file. -/
def read (files : FileSystem) (path : Path) : Except FileError ByteArray :=
  return files.bytesAt (← files.locateSource path)

/-- The text of a file. -/
def readText (files : FileSystem) (path : Path) : Except FileError Text := do
  match Text.decode? (← files.read path) with
  | some text => return text
  | none => throw .invalidEncoding

/-- The location, if it can be written; nothing is made where the system fills the
directory. -/
def expectTarget (files : FileSystem) (location : Location) : Except FileError Location :=
  if files.isDirectory location then .error .isDirectory
  else if (files.node? location).isNone ∧ files.node? location.dropLast = some .generated then
    .error .notFound
  else .ok location

/-- The location that is written by the path. -/
def locateTarget (files : FileSystem) (path : Path) : Except FileError Location := do
  match ← files.resolve path with
  | .directory _ => throw .isDirectory
  | .entry location slash =>
    if slash then throw .isDirectory
    else files.expectTarget (← files.follow location)

/-- Creates the file, or replaces what it holds. -/
def write (files : FileSystem) (path : Path) (bytes : ByteArray) :
    Except FileError FileSystem :=
  return files.store (← files.locateTarget path) bytes

/-- Creates the file with the text in UTF-8, or replaces what it holds. -/
def writeText (files : FileSystem) (path : Path) (text : Text) : Except FileError FileSystem :=
  files.write path text.encode

/-- **Copies a file**: the target is emptied before the first byte is moved. -/
def copy (files : FileSystem) (source target : Path) : Except FileError FileSystem := do
  let origin ← files.locateSource source
  let destination ← files.locateTarget target
  let opened := files.store destination .empty
  return opened.store destination (opened.bytesAt origin)

/-- Removes an entry that is no directory; of a link the link, not its goal. -/
def remove (files : FileSystem) (path : Path) : Except FileError FileSystem := do
  match ← files.resolve path with
  | .directory _ => throw .isDirectory
  | .entry location slash => return files.erase (← files.expectEntry location slash)

end FileSystem

end MeshScript
