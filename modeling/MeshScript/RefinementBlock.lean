import MeshScript.Substitution
/-!
# MeshScript.RefinementBlock -- meshing parameters and the refinement field

Behind the edited script go ten lines: the mesh file version, two meshing
parameters, and a field that refines the mesh by the distance from the wall surfaces.
Only the line that lists the surfaces depends on the script; it repeats the surface
list character for character.
-/

namespace MeshScript

/-- **A finished script**, with its surface list, the number of lines each rule
edited, and the number of lines appended. -/
structure Finished where
  script : Script
  surfaces : SurfaceList
  edits : Tally
  appended : Nat
  deriving DecidableEq, Repr

/-- The line of the refinement field that lists the surfaces. -/
def surfacesLine (surfaces : SurfaceList) : Text :=
  "Field[1].SurfacesList = \x7b".toList ++ surfaces.raw ++ "\x7d;".toList

/-- The list stands between the only two braces that are not its own. -/
theorem surfacesLine_eq (surfaces : SurfaceList) :
    surfacesLine surfaces =
      "Field[1].SurfacesList = ".toList ++ '{' :: (surfaces.raw ++ '}' :: [';']) := by
  have hopen : "Field[1].SurfacesList = \x7b".toList =
      "Field[1].SurfacesList = ".toList ++ ['{'] := by decide
  have hclose : "\x7d;".toList = ['}', ';'] := by decide
  unfold surfacesLine
  simp only [hopen, hclose, List.append_assoc, List.cons_append, List.nil_append]

/-- The appended lines, in order. -/
def refinementBlock (surfaces : SurfaceList) : List Text :=
  [ "Mesh.MshFileVersion = 2.2;".toList,
    "Mesh.MeshSizeExtendFromBoundary = 0;".toList,
    "Mesh.RandomFactor = 1e-6;\n".toList,
    "lc = 10;".toList,
    "Field[1] = Distance;".toList,
    surfacesLine surfaces,
    "Field[1].NumPointsPerCurve = 200;".toList,
    "Field[2] = MathEval;".toList,
    "Field[2].F = Sprintf(\"F1/5 + %g\", lc);".toList,
    "Background Field = 2;".toList ]

/-- **The stage that appends the block.** It fails if there is no surface list. -/
def refine : Stage Edited Finished where
  run input :=
    match input.surfaces with
    | none => .fail (.noSurfaceList Rule.wallToken)
    | some surfaces =>
      let block := refinementBlock surfaces
      .succeed ⟨input.script.append block, surfaces, input.edits, block.length⟩ []

end MeshScript
