import MeshScript.Job
import MeshScript.Layout
/-!
# MeshScript.Placement -- bringing the export to its results

Before any text is looked at, both artifacts of an export are copied next to the final
output. They are looked for first, so that a missing one leaves everything as it was.
-/

namespace MeshScript

/-- **The copies** of both artifacts. -/
structure Placed where
  script : Path
  geometry : Path
  deriving DecidableEq, Repr

/-- The path, if a regular file is there. -/
def findArtifact (artifact : Artifact) (path : Path) : Job Path := do
  if ← Job.inspect (·.isFile path) then return path
  else Job.fail (.artifactMissing artifact path)

/-- Copies one artifact. A failure on either side is reported with the source. -/
def copyArtifact (source target : Path) : Job Unit := do
  Job.access source (·.copy source target)
  Job.note (.artifactCopied source target)

/-- **Places** both artifacts of a shape under a base name. -/
def placeArtifacts (layout : Layout) (base shape : Text) : Job Placed := do
  let script ← findArtifact .script layout.exportedScript
  let geometry ← findArtifact .geometry (layout.exportedGeometry shape)
  let placed : Placed := ⟨layout.interimScript base, layout.finalGeometry base⟩
  copyArtifact script placed.script
  copyArtifact geometry placed.geometry
  Job.note (.artifactsPlaced placed.script placed.geometry)
  return placed

end MeshScript
