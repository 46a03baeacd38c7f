import MeshScript.Path
/-!
# MeshScript.Layout -- where an export leaves its files and where results go

A mesh export writes a script and a geometry into a scratch directory: the script
under a fixed name, the geometry under the name of the shape. The results go into an
output directory under a base name: `<base>.geo`, `<base>.brep`, and for a while
`<base>.geo.copy`.
-/

namespace MeshScript

/-- **A layout.** Directories and names are joined by `Path.join`, so any of them may be
absolute or climb with `..`. -/
structure Layout where
  /-- Where the export leaves its files. -/
  scratchDir : Path := "/tmp".toList
  /-- The file name of the exported script. -/
  scriptName : Text := "shape2mesh.geo".toList
  /-- What follows the shape in the file name of the exported geometry. -/
  geometrySuffix : Text := "_Geometry".toList
  /-- The file extension of the exported geometry, without its dot. -/
  geometryExtension : Text := "brep".toList
  /-- Where the results go. -/
  outputDir : Path := ".".toList
  deriving DecidableEq, Repr

namespace Layout

/-- The exported script. -/
def exportedScript (layout : Layout) : Path :=
  layout.scratchDir.join layout.scriptName

/-- The exported geometry of a shape. -/
def exportedGeometry (layout : Layout) (shape : Text) : Path :=
  layout.scratchDir.join (shape ++ layout.geometrySuffix ++ '.' :: layout.geometryExtension)

/-- The normalized script. -/
def finalScript (layout : Layout) (base : Text) : Path :=
  layout.outputDir.join (base ++ ".geo".toList)

/-- The copy of the exported script, which a complete run removes again. -/
def interimScript (layout : Layout) (base : Text) : Path :=
  layout.outputDir.join (base ++ ".geo.copy".toList)

/-- The copy of the exported geometry. -/
def finalGeometry (layout : Layout) (base : Text) : Path :=
  layout.outputDir.join (base ++ ".brep".toList)

end Layout

end MeshScript
