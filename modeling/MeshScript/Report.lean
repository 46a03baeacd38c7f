import MeshScript.Path
import MeshScript.Tally
import MeshScript.Json
/-!
# MeshScript.Report -- the summary of a run

What a complete run tells about itself: the paths it wrote, how many lines it read,
dropped and excluded, how many lines each rule edited, how many lines it appended,
and the surfaces that the refinement field refers to.
-/

namespace MeshScript

/-- **The summary of a run.** -/
structure Report where
  base : Text
  script : Path
  geometry : Path
  linesRead : Nat
  blankDropped : Nat
  excluded : Nat
  edits : Tally
  appended : Nat
  surfaces : List Text
  deriving DecidableEq, Repr

namespace Report

/-- The report as JSON, its fields in the order of the structure. -/
def toJson (report : Report) : Json :=
  .object
    [ ("base".toList, .string report.base),
      ("script".toList, .string report.script),
      ("geometry".toList, .string report.geometry),
      ("lines_read".toList, .number report.linesRead),
      ("blank_lines_dropped".toList, .number report.blankDropped),
      ("lines_excluded".toList, .number report.excluded),
      ("rewrites".toList,
        .object (report.edits.entries.map fun entry => (entry.1, .number entry.2))),
      ("lines_injected".toList, .number report.appended),
      ("surfaces".toList, .array (report.surfaces.map .string)) ]

/-- The report as indented JSON text. -/
def render (report : Report) : Text :=
  report.toJson.render

end Report

end MeshScript
