import MeshScript.Path
import Std.Data.ExtTreeMap
/-!
# MeshScript.FileSystem -- files and directories as a value

A file system is a finite map from locations to nodes, together with a working
directory. Locations are the names from the root down; the root itself is always a
directory and has no entry. The map is extensional: two file systems with the same
working directory are equal as soon as every location holds the same node in both
(`FileSystem.ext_node?`).

Besides files and directories there is what a running system adds to them: links, a
device that swallows all, and directories that the system fills by itself. There are no
permissions; what an operation can meet otherwise is a `FileError`. The operations live
in `MeshScript.FileSystem.Access`.
-/

namespace MeshScript

/-- **A location**: the names on the way from the root. The root is the empty list. -/
abbrev Location := List Text

/-- Byte arrays are compared byte by byte. -/
instance (priority := high) bytesDecidableEq : DecidableEq ByteArray :=
  ByteArray.instDecidableEq

/-- What a location holds. -/
inductive Node
  /-- A regular file. -/
  | file (bytes : ByteArray)
  /-- A directory. -/
  | directory
  /-- A directory that the system fills by itself; nothing can be made in it. -/
  | generated
  /-- A device that holds nothing and swallows what is written to it. -/
  | device
  /-- Another name for what is at `goal`, which is no link itself. -/
  | link (goal : Location)
  deriving DecidableEq

/-- The node is a directory of either kind. -/
def Node.isDirectory : Node → Bool
  | directory | generated => true
  | file _ | device | link _ => false

/-- **A file system** and the directory in which relative paths start. -/
@[ext] structure FileSystem where
  nodes : Std.ExtTreeMap Location Node compare
  workingDirectory : Location

namespace FileSystem

/-- The path written from the root on; a relative one starts in the working directory. -/
def fullPath (files : FileSystem) (path : Path) : Path :=
  Path.join ('/' :: List.intercalate ['/'] files.workingDirectory) path

/-- What the location holds, if anything. -/
def node? (files : FileSystem) (location : Location) : Option Node :=
  files.nodes[location]?

/-- A directory is at the location. -/
def isDirectory (files : FileSystem) (location : Location) : Bool :=
  location.isEmpty || (files.node? location).any Node.isDirectory

/-- The file system with `node` at the location, whatever was there. -/
def put (files : FileSystem) (location : Location) (node : Node) : FileSystem :=
  { files with nodes := files.nodes.insert location node }

/-- The file system with nothing at the location. -/
def erase (files : FileSystem) (location : Location) : FileSystem :=
  { files with nodes := files.nodes.erase location }

theorem node?_put (files : FileSystem) (location : Location) (node : Node)
    (other : Location) :
    (files.put location node).node? other =
      if other = location then some node else files.node? other := by
  simp only [node?, put, Std.ExtTreeMap.getElem?_insert,
    Std.compare_eq_iff_eq (α := Location), eq_comm (a := location)]

theorem node?_erase (files : FileSystem) (location other : Location) :
    (files.erase location).node? other =
      if other = location then none else files.node? other := by
  simp only [node?, erase, Std.ExtTreeMap.getElem?_erase,
    Std.compare_eq_iff_eq (α := Location), eq_comm (a := location)]

/-- **A file system is what its locations hold.** -/
theorem ext_node? {files others : FileSystem}
    (directory : files.workingDirectory = others.workingDirectory)
    (same : ∀ location, files.node? location = others.node? location) : files = others :=
  FileSystem.ext (Std.ExtTreeMap.ext_getElem? same) directory

/-- The file system after `bytes` went to the location: a device swallows them, anything
else becomes a file that holds them. -/
def store (files : FileSystem) (location : Location) (bytes : ByteArray) : FileSystem :=
  if files.node? location = some .device then files else files.put location (.file bytes)

/-- Storing changes one location, unless a device is there. -/
theorem node?_store (files : FileSystem) (location : Location) (bytes : ByteArray)
    (other : Location) :
    (files.store location bytes).node? other =
      if other = location ∧ files.node? location ≠ some .device then some (.file bytes)
      else files.node? other := by
  unfold store
  split
  · rename_i swallowed
    simp [swallowed]
  · rename_i kept
    simp [node?_put, kept]

/-- The file system of the given nodes; a later one at the same location wins. -/
def ofList (nodes : List (Location × Node)) (workingDirectory : Location) : FileSystem :=
  ⟨.ofList nodes compare, workingDirectory⟩

/-- The nodes with their locations, in increasing order of the locations. -/
def toList (files : FileSystem) : List (Location × Node) :=
  files.nodes.toList

end FileSystem

end MeshScript
