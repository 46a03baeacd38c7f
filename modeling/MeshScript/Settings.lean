import MeshScript.Settings.Library
/-!
# MeshScript.Settings -- settings in layers

Settings come from the built-in text, from configuration files, and from overrides. They are given
to a library one after the other, layer by layer; the built-in text is its first source. An
override that the library refuses ends the loading at once, whatever the files hold.
-/

namespace MeshScript

/-- **A layer of settings.** -/
inductive Layer
  /-- A configuration file; one that is not required may be missing. -/
  | file (path : Path) (required : Bool)
  /-- One setting. -/
  | override (key : Text) (value : Settings.Scalar)

namespace Settings

/-- The built-in settings. -/
def defaultText : Text :=
  List.flatMap (fun line => line.toList ++ ['\n'])
    [ "# Default geofix configuration.",
      "#",
      "# Only file locations are configurable; the exclusion and substitution tables",
      "# are fixed.",
      "",
      "[scratch]",
      "# Directory the CAD mesh export writes into.",
      "dir = \"/tmp\"",
      "# Name of the generated script inside `dir`.",
      "script = \"shape2mesh.geo\"",
      "# The geometry file is named <shape><geometry_suffix>.<geometry_extension>.",
      "geometry_suffix = \"_Geometry\"",
      "geometry_extension = \"brep\"",
      "",
      "[output]",
      "# Where <base>.geo and <base>.brep are written.",
      "dir = \".\"" ]

variable (library : Library)

/-- The builder with the built-in settings. -/
def start : library.Builder :=
  library.addSource library.new (.text defaultText)

/-- Adds a layer. -/
def addLayer (builder : library.Builder) : Layer → Except library.Failure library.Builder
  | .file path required => .ok (library.addSource builder (.file path required))
  | .override key value => library.setOverride builder key value

/-- **Loads the settings** from their layers over the built-in ones. -/
def load (files : FileSystem) (layers : List Layer) : Except library.Failure Layout := do
  let builder ← layers.foldlM (addLayer library) (start library)
  let built ← library.build files builder
  let configuration ← library.decode built
  return configuration.layout

end Settings

end MeshScript
