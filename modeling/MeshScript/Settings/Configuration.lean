import MeshScript.Layout
/-!
# MeshScript.Settings.Configuration -- the settings of the program

There are five settings, in two tables: `scratch` says where the mesh export leaves its files and
`output` where the results go. They are all there is to a layout (`Configuration.layout`).

A setting is named by its table and its name in there (`Field.key`).
-/

namespace MeshScript

/-- Where the mesh export leaves its files. -/
structure ScratchSettings where
  dir : Path
  script : Text
  geometrySuffix : Text
  geometryExtension : Text
  deriving DecidableEq, Repr

/-- Where the results go. -/
structure OutputSettings where
  dir : Path
  deriving DecidableEq, Repr

/-- **The settings.** -/
structure Configuration where
  scratch : ScratchSettings
  output : OutputSettings
  deriving DecidableEq, Repr

/-- **The layout** that the settings describe. -/
def Configuration.layout (configuration : Configuration) : Layout where
  scratchDir := configuration.scratch.dir
  scriptName := configuration.scratch.script
  geometrySuffix := configuration.scratch.geometrySuffix
  geometryExtension := configuration.scratch.geometryExtension
  outputDir := configuration.output.dir

/-! ## One setting -/

namespace Settings

/-- **A setting.** -/
inductive Field
  | scratchDir
  | scriptName
  | geometrySuffix
  | geometryExtension
  | outputDir
  deriving DecidableEq, Repr

namespace Field

/-- All settings. -/
def all : List Field :=
  [scratchDir, scriptName, geometrySuffix, geometryExtension, outputDir]

theorem mem_all (field : Field) : field ∈ all := by
  cases field <;> decide

/-- The table in which the setting is. -/
def table : Field → Text
  | scratchDir | scriptName | geometrySuffix | geometryExtension => "scratch".toList
  | outputDir => "output".toList

/-- The name of the setting in its table. -/
def name : Field → Text
  | scratchDir | outputDir => "dir".toList
  | scriptName => "script".toList
  | geometrySuffix => "geometry_suffix".toList
  | geometryExtension => "geometry_extension".toList

/-- **The key** of the setting. -/
def key (field : Field) : Text :=
  field.table ++ '.' :: field.name

/-- A setting is told by its table and its name. -/
theorem eq_of_names {field other : Field} (htable : field.table = other.table)
    (hname : field.name = other.name) : field = other := by
  cases field <;> cases other <;> first | rfl | (revert htable hname; decide)

theorem eq_of_key_eq {field other : Field} (h : field.key = other.key) : field = other := by
  cases field <;> cases other <;> first | rfl | (revert h; decide)

end Field

end Settings

open Settings (Field)

/-- The text of a setting. -/
def Configuration.setting (configuration : Configuration) : Field → Text
  | .scratchDir => configuration.scratch.dir
  | .scriptName => configuration.scratch.script
  | .geometrySuffix => configuration.scratch.geometrySuffix
  | .geometryExtension => configuration.scratch.geometryExtension
  | .outputDir => configuration.output.dir

/-- What a setting comes to in a layout. -/
def Layout.setting (layout : Layout) : Field → Text
  | .scratchDir => layout.scratchDir
  | .scriptName => layout.scriptName
  | .geometrySuffix => layout.geometrySuffix
  | .geometryExtension => layout.geometryExtension
  | .outputDir => layout.outputDir

/-- A layout is what its settings say. -/
theorem Layout.ext_setting {layout other : Layout}
    (h : ∀ field, layout.setting field = other.setting field) : layout = other := by
  cases layout
  cases other
  congr
  · exact h .scratchDir
  · exact h .scriptName
  · exact h .geometrySuffix
  · exact h .geometryExtension
  · exact h .outputDir

/-- Each setting goes to its own place in the layout. -/
@[simp] theorem Configuration.setting_layout (configuration : Configuration) (field : Field) :
    configuration.layout.setting field = configuration.setting field := by
  cases field <;> rfl

end MeshScript
