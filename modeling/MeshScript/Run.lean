import MeshScript.Placement
import MeshScript.Normalize
import MeshScript.Report
/-!
# MeshScript.Run -- normalizing an export on disk

A run copies the artifacts, writes the copied script without its blank lines to
`<base>.geo` and removes the copy, then reads that script, drops the excluded lines,
edits and extends it, and writes it back in place. Any failure ends the run: it can
leave the copy or the script without blank lines behind.

The text is read twice. The second reading sees what the first one wrote, so a line
that kept a carriage return at its end loses one more than in memory.
-/

namespace MeshScript

/-- Writes the lines of `interim` that are not blank to `target` and removes `interim`.
Gives the number of lines read and of blank ones. -/
def moveWithoutBlanks (interim target : Path) : Job (Nat × Nat) := do
  let source ← Job.query interim (·.readText interim)
  let kept := source.lines.filter (!·.isBlank)
  Job.access target (·.writeText target (Text.unlines kept))
  Job.access interim (·.remove interim)
  let read := source.lines.length
  let blank := source.lines.countP (·.isBlank)
  Job.note (.interimStripped read blank)
  return (read, blank)

/-- **A run** for one base name and one shape. -/
def normalizeExport (layout : Layout) (base shape : Text) : Job Report := do
  Job.note (.runStarted base shape)
  let placed ← placeArtifacts layout base shape
  let script := layout.finalScript base
  let (linesRead, blankDropped) ← moveWithoutBlanks placed.script script
  let source ← Job.query script (·.readText script)
  let stripped := Script.parse source
  let kept ← Job.through clean stripped
  let excluded := stripped.length - kept.length
  Job.note (.scriptCleaned excluded kept.length)
  let finished ← Job.through (retarget base) kept
  Job.note (.scriptFinished finished.edits.total finished.appended finished.surfaces.raw)
  Job.access script (·.writeText script finished.script.render)
  Job.note (.scriptWritten script)
  return {
    base
    script
    geometry := placed.geometry
    linesRead
    blankDropped
    excluded
    edits := finished.edits
    appended := finished.appended
    surfaces := finished.surfaces.names }

end MeshScript
