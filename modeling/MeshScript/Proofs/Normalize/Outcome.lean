import MeshScript.Normalize
import MeshScript.Proofs.Substitution.LineByLine
/-!
# MeshScript.Proofs.Normalize.Outcome -- what a normalization gives, without its stages

A normalization keeps the lines that are neither blank nor excluded, edits them line by line,
and appends the refinement block for the last wall-group line among them; it fails exactly
if that gives no surface list. `normalize_outcome` says so for a script in memory and
`normalizeText_eq` for its text. Later modules start from these two and open no stage.
-/

namespace MeshScript

/-- **The lines that cleaning keeps.** -/
def Script.keptLines (script : Script) : List Text :=
  (script.lines.filter (!·.isBlank)).filter (!·.isExcluded)

theorem Script.mem_keptLines {script : Script} {line : Text} :
    line ∈ script.keptLines ↔
      line ∈ script.lines ∧ line.isBlank = false ∧ line.isExcluded = false := by
  simp only [keptLines, List.mem_filter, Bool.not_eq_true', and_assoc]

/-- **The finished script** for kept lines with a known surface list. -/
def Finished.ofLines (base : Text) (lines : List Text) (surfaces : SurfaceList) : Finished where
  script := ⟨Rule.editLines base lines ++ refinementBlock surfaces⟩
  surfaces := surfaces
  edits := (Draft.ofScript base ⟨lines⟩).edits
  appended := (refinementBlock surfaces).length

/-- **What becomes of kept lines**: a finished script, if one of them gives the surfaces. -/
def finish (base : Text) (lines : List Text) : Except StageError Finished :=
  match Rule.surfacesOf lines with
  | none => .error (.noSurfaceList Rule.wallToken)
  | some surfaces => .ok (Finished.ofLines base lines surfaces)

theorem finish_eq_ok_iff {base : Text} {lines : List Text} {finished : Finished} :
    finish base lines = .ok finished ↔
      ∃ surfaces, Rule.surfacesOf lines = some surfaces ∧
        finished = .ofLines base lines surfaces := by
  unfold finish
  cases Rule.surfacesOf lines <;> simp [eq_comm]

theorem refine_outcome (edited : Edited) :
    (refine.run edited).outcome =
      match edited.surfaces with
      | none => .error (.noSurfaceList Rule.wallToken)
      | some surfaces => .ok ⟨edited.script.append (refinementBlock surfaces), surfaces,
          edited.edits, (refinementBlock surfaces).length⟩ := by
  obtain ⟨script, surfaces, edits⟩ := edited
  cases surfaces <;> rfl

theorem retarget_outcome (base : Text) (script : Script) :
    ((retarget base).run script).outcome = finish base script.lines := by
  have hidentity : (Stage.identity.run script : Logged StageError Script).outcome = .ok script :=
    rfl
  simp only [retarget, Stage.andThen_outcome, hidentity, substitute_outcome, Except.bind, bind,
    refine_outcome]
  unfold finish
  cases Rule.surfacesOf script.lines <;> rfl

/-- **What a normalization gives** depends on the kept lines only. -/
theorem normalize_outcome (base : Text) (script : Script) :
    ((normalize base).run script).outcome = finish base script.keptLines := by
  have hretarget := retarget_outcome base ⟨script.keptLines⟩
  have hidentity : (Stage.identity.run script : Logged StageError Script).outcome = .ok script :=
    rfl
  simp only [retarget, Stage.andThen_outcome, bind, Except.bind] at hretarget
  simp only [normalize, Stage.andThen_outcome, hidentity, clean_outcome, bind, Except.bind]
  exact hretarget

/-- **Normalizing source text** renders what becomes of its kept lines. -/
theorem normalizeText_eq (source base : Text) :
    normalizeText source base =
      (finish base (Script.parse source).keptLines).map (·.script.render) := by
  unfold normalizeText normalizeLogged
  rw [Logged.bind_outcome, normalize_outcome]
  cases finish base (Script.parse source).keptLines <;> rfl

/-- **A line of a finished script** is an edited line, or behind these a line of the block. -/
theorem getElem?_lines_ofLines (base : Text) (lines : List Text) (surfaces : SurfaceList)
    (i : Nat) : (Finished.ofLines base lines surfaces).script.lines[i]? =
      match lines[i]? with
      | some line => some (Rule.editLine base line ++ Rule.spaceBefore (lines.drop (i + 1)))
      | none => (refinementBlock surfaces)[i - lines.length]? := by
  show (Rule.editLines base lines ++ refinementBlock surfaces)[i]? = _
  by_cases h : i < lines.length
  · rw [List.getElem?_append_left (by rwa [Rule.length_editLines]), Rule.getElem?_editLines,
      List.getElem?_eq_getElem h]
    rfl
  · have hle : lines.length ≤ i := by omega
    rw [List.getElem?_append_right (by rwa [Rule.length_editLines]), Rule.length_editLines,
      List.getElem?_eq_none hle]

theorem render_ofLines (base : Text) (lines : List Text) (surfaces : SurfaceList) :
    (Finished.ofLines base lines surfaces).script.render =
      Text.unlines (Rule.editLines base lines) ++ Text.unlines (refinementBlock surfaces) := by
  rw [Finished.ofLines, Script.render, Text.unlines_append]

end MeshScript
