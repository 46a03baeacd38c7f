import MeshScript.Cleaning
import MeshScript.RefinementBlock
/-!
# MeshScript.Normalize -- the whole way to the normal form of a script

`retarget` substitutes and appends the refinement block; `normalize` cleans the script
before that. `normalizeText` is the same from source text to source text.
-/

namespace MeshScript

/-- Substitution for one base name, then the refinement block. -/
def retarget (base : Text) : Stage Script Finished :=
  Stage.identity.andThen (substitute base) |>.andThen refine

/-- **Normalization** for one base name: cleaning, substitution, refinement block. -/
def normalize (base : Text) : Stage Script Finished :=
  Stage.identity.andThen clean |>.andThen (substitute base) |>.andThen refine

/-- Normalizes source text in memory; the events are kept. -/
def normalizeLogged (source base : Text) : Logged StageError Text := do
  let finished ← (normalize base).run (Script.parse source)
  return finished.script.render

/-- **Normalizes source text in memory.** -/
def normalizeText (source base : Text) : Except StageError Text :=
  (normalizeLogged source base).outcome

end MeshScript
