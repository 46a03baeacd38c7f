import MeshScript.Settings.Decode
import MeshScript.Toml.Document
/-!
# MeshScript.Settings.Layered -- a library that merges trees

`Settings.layered` is a library of settings. A builder is its sources and its overrides. The
sources are merged in the order in which they were added, one tree over the other; the overrides
go over the tree that all sources give, and over earlier overrides.

The first failure counts: first a key that is no key path, then a source that is missing or
malformed, then a setting that does not fit.
-/

namespace MeshScript.Settings

/-! ## Configuration files -/

/-- The ending that a configuration file may be named without. -/
def fileEnding : Text := ".toml".toList

/-- The path with the ending behind its last name; none if that is not a name. -/
def withEnding? (path : Path) : Option Path :=
  let trimmed := dropDots path.reverse
  let last := (trimmed.takeWhile (· != '/')).reverse
  if last.isEmpty || last = ['.'] || last = ['.', '.'] then none
  else some (trimmed.reverse ++ fileEnding)
where
  /-- The reversed path without slashes and single dots behind its last name. -/
  dropDots : Text → Text
    | '/' :: rest => dropDots rest
    | '.' :: '/' :: rest => dropDots ('/' :: rest)
    | other => other

/-- Where a configuration file is looked for: under its path as it is given, then with
the ending added. Both are written from the root on, so that the working directory
counts for how long they are. -/
def searchPaths (files : FileSystem) (path : Path) : List Path :=
  let full := files.fullPath path
  full :: (withEnding? full).toList

/-- The path under which a configuration file is found. -/
def findFile? (files : FileSystem) (path : Path) : Option Path :=
  (searchPaths files path).find? files.isFile

/-- How messages name a file: by the way to it from the working directory, without
needless slashes and dots. -/
def originOf (files : FileSystem) (path : Path) : Path :=
  List.intercalate ['/']
    (Path.wayBetween files.workingDirectory (path.names.filter (· != ['.'])))

/-! ## Sources -/

/-- Merges a document over a tree. -/
def mergeDocument (origin? : Option Path) (source : Text) (tree : Tree) :
    Except SettingsError Tree :=
  match (Toml.parse? source).map (Tree.ofToml origin?) with
  | none => .error .malformed
  | some (.table _ fields) => .ok (tree.mergeFile fields)
  | some other => .error (.rootNotTable other.description origin?)

/-- **Merges a source over a tree.** A file that is not required may be unreadable too,
but not malformed. -/
def mergeSource (files : FileSystem) (tree : Tree) : Source → Except SettingsError Tree
  | .text source => mergeDocument none source tree
  | .file path required =>
    match findFile? files path with
    | none => if required then .error (.fileNotFound path) else .ok tree
    | some found =>
      match files.readText found with
      | .error cause => if required then .error (.unreadableFile cause) else .ok tree
      | .ok source => mergeDocument (originOf files found) source tree

/-! ## The library -/

/-- **A builder**: sources, and overrides with their keys read as key paths. -/
structure Builder where
  sources : List Source := []
  overrides : List (KeyPath × Scalar) := []

namespace Builder

/-- Adds a source behind all others. -/
def addSource (builder : Builder) (source : Source) : Builder :=
  { builder with sources := builder.sources ++ [source] }

/-- Adds an override behind all others. -/
def setOverride (builder : Builder) (key : Text) (value : Scalar) :
    Except SettingsError Builder :=
  match KeyPath.parse? key with
  | some path => .ok { builder with overrides := builder.overrides ++ [(path, value)] }
  | none => .error .invalidKey

/-- Puts overrides over a tree, one after the other. -/
def applyOverrides (overrides : List (KeyPath × Scalar)) (tree : Tree) : Tree :=
  overrides.foldl (fun tree (path, value) => Tree.mergeAt (.scalar none value) path tree) tree

/-- **The tree of all sources and overrides.** -/
def build (files : FileSystem) (builder : Builder) : Except SettingsError Tree := do
  let merged ← builder.sources.foldlM (mergeSource files) Tree.empty
  return applyOverrides builder.overrides merged

end Builder

/-- What stands at the place of a setting. -/
def Tree.at? (tree : Tree) (field : Field) : Option Tree :=
  (tree.child? field.table).bind (·.child? field.name)

/-- **The library** that merges trees. -/
def layered : Library where
  Builder := Builder
  Built := Tree
  Failure := SettingsError
  message := SettingsError.message
  new := {}
  addSource := Builder.addSource
  setOverride := Builder.setOverride
  build := Builder.build
  decode := Tree.configuration
  find? := findFile?
  parse? := Toml.parse?
  text? tree field := (tree.at? field).bind Tree.asText?

end MeshScript.Settings
