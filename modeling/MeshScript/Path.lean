import MeshScript.Text.Search
/-!
# MeshScript.Path -- path names

A path is a text with slashes. Joining two paths is textual and normalizes nothing:
`.` and `..` stay where they are, because only the file system can say what they
mean. `Path.names` is the reading of a path as a list of names to follow, and
`Path.wayBetween` leads from one such list to another.
-/

namespace MeshScript

/-- **A path name**, as it is written. -/
abbrev Path := Text

namespace Path

/-- The path starts at the root. -/
def isAbsolute (path : Path) : Bool :=
  path.head? == some '/'

/-- The path asks for a directory by the slash at its end. -/
def hasTrailingSlash (path : Path) : Bool :=
  path.getLast? == some '/'

/-- `directory` followed by `name`. An absolute name stands for itself, an empty
directory adds nothing, and a slash is put between the two unless one is there. -/
def join (directory name : Path) : Path :=
  if isAbsolute name then name
  else if directory.isEmpty || hasTrailingSlash directory then directory ++ name
  else directory ++ '/' :: name

/-- The names between the slashes. Several slashes in a row count as one. -/
def names (path : Path) : List Text :=
  (path.splitOn '/').filter (!·.isEmpty)

/-- The names that lead from `start` to `goal`, both lists of names from the root: up to
where the two part, then down. -/
def wayBetween : List Text → List Text → List Text
  | [], goal => goal
  | start, [] => start.map fun _ => ['.', '.']
  | here :: start, name :: goal =>
    if here = name then wayBetween start goal
    else (here :: start).map (fun _ => ['.', '.']) ++ name :: goal

end Path

end MeshScript
