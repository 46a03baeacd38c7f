import MeshScript.Text.Blank
import MeshScript.Script
import MeshScript.Exclusion
import MeshScript.Stage
/-!
# MeshScript.Cleaning -- dropping blank and excluded lines

Two stages take lines out of a script and never change one: `dropBlank` and
`dropExcluded`. `clean` is the first and then the second. They always succeed, so a
chain of them keeps exactly the lines that every one of its stages keeps.
-/

namespace MeshScript

/-- The stage that drops blank lines. -/
def dropBlank : Stage Script Script where
  run script :=
    let kept := script.filter (!·.isBlank)
    .succeed kept [.blankLinesDropped (script.length - kept.length)]

/-- The events of filtering one line: which exclusion it met, if any. -/
def exclusionEvents (line : Text) : List Event :=
  match Exclusion.firstFor? line with
  | some exclusion => [.lineExcluded exclusion.name line]
  | none => []

/-- The stage that drops the lines an exclusion disqualifies. -/
def dropExcluded : Stage Script Script where
  run script :=
    .succeed (script.filter (!·.isExcluded)) (script.lines.flatMap exclusionEvents)

/-- **Cleaning**: blank lines go first, then excluded ones. -/
def clean : Stage Script Script :=
  Stage.identity.andThen dropBlank |>.andThen dropExcluded

theorem dropBlank_outcome (script : Script) :
    (dropBlank.run script).outcome = .ok (script.filter (!·.isBlank)) := rfl

theorem dropExcluded_outcome (script : Script) :
    (dropExcluded.run script).outcome = .ok (script.filter (!·.isExcluded)) := rfl

theorem clean_outcome (script : Script) :
    (clean.run script).outcome =
      .ok ((script.filter (!·.isBlank)).filter (!·.isExcluded)) := rfl

end MeshScript
