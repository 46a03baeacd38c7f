import MeshScript.Settings.Configuration
import MeshScript.Toml.Value
import MeshScript.FileSystem.Access
/-!
# MeshScript.Settings.Library -- what settings are put together with

Settings are put together by a library: sources and overrides are added to a builder, and what is
built from them is decoded. How it does that is its own business, and nothing here depends on one
way to do it; `Library` is what can be asked of it. What is promised about the answers is stated in
`MeshScript.Proofs.Settings.Library`, and a library that keeps these promises is in
`MeshScript.Settings.Layered`.
-/

namespace MeshScript.Settings

/-- **A single value** of a setting. -/
inductive Scalar
  | null
  | boolean (b : Bool)
  | integer (n : Int)
  | float (x : Binary64)
  | text (t : Text)
  deriving DecidableEq, Repr

/-- **A source** of settings. -/
inductive Source
  /-- A text. -/
  | text (source : Text)
  /-- A configuration file; one that is not required may be missing. -/
  | file (path : Path) (required : Bool)
  deriving DecidableEq, Repr

/-- **A library** that puts settings together. The last three operations are not called when
settings are loaded; they are there to say what the others do. -/
structure Library where
  /-- What settings are put together in. -/
  Builder : Type
  /-- What comes out. -/
  Built : Type
  /-- Why it fails. -/
  Failure : Type
  /-- The wording of a failure. -/
  message : Failure → Text
  /-- The builder without sources and overrides. -/
  new : Builder
  /-- Adds a source. -/
  addSource : Builder → Source → Builder
  /-- Adds an override of the setting with this key. -/
  setOverride : Builder → Text → Scalar → Except Failure Builder
  /-- Reads the sources and puts everything together. -/
  build : FileSystem → Builder → Except Failure Built
  /-- Takes the settings out of what was built. -/
  decode : Built → Except Failure Configuration
  /-- The path under which a configuration file is found, if it is. -/
  find? : FileSystem → Path → Option Path
  /-- The value of a well-formed document. -/
  parse? : Text → Option Toml.Value
  /-- The text under the key of a setting, if there is one. -/
  text? : Built → Field → Option Text

end MeshScript.Settings
