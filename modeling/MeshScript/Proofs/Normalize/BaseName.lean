import MeshScript.Proofs.Normalize.NormalForm
import MeshScript.Proofs.Substitution.Edits
/-!
# MeshScript.Proofs.Normalize.BaseName -- where the base name goes

The base name is written into the script while other rules still look for their tokens, so a
name like `mg_wall` or `Save` could be taken for a part of the script. It is not: triggers are
tested on the line as it was, and a token counts only between quotes, which a base name without
quotes cannot bring. So the normal forms of one script for two base names differ in the lines of
the `Merge` and `Save` statements only, and there in the base name itself (`normalize_base`).
-/

namespace MeshScript

/-- What stands behind the line at `i`: a line feed, if the next line is an element-order line. -/
def spaceBehind (lines : List Text) (i : Nat) : Text :=
  if lines[i + 1]?.any (·.includes "ElementOrder".toList) then ['\n'] else []

theorem spaceBefore_drop (lines : List Text) (i : Nat) :
    Rule.spaceBefore (lines.drop (i + 1)) = spaceBehind lines i := by
  have hspace : Rule.asksForSpace = (·.includes "ElementOrder".toList) :=
    funext Rule.asksForSpace_eq
  rw [Rule.spaceBefore, List.head?_drop, hspace, spaceBehind]

/-- **The same but for the base name**: two finished scripts for the same kept lines. -/
structure SameButBase (kept : List Text) (base other : Text) (finished finished' : Finished) :
    Prop where
  surfaces : finished.surfaces = finished'.surfaces
  edits : finished.edits = finished'.edits
  appended : finished.appended = finished'.appended
  length : finished.script.length = finished'.script.length
  /-- All lines are the same that stand for no `Merge` and no `Save` statement. -/
  same : ∀ i : Nat, (∀ line, kept[i]? = some line →
      ¬ "Merge".toList <:+: line ∧ ¬ "Save".toList <:+: line) →
    finished.script.lines[i]? = finished'.script.lines[i]?
  /-- A `Merge` statement names the base name, and has the same space behind it. -/
  merge : ∀ (i : Nat) (line : Text), kept[i]? = some line → "Merge".toList <:+: line →
    finished.script.lines[i]? =
        some ("Merge \"".toList ++ base ++ ".brep\";\n".toList ++ spaceBehind kept i) ∧
      finished'.script.lines[i]? =
        some ("Merge \"".toList ++ other ++ ".brep\";\n".toList ++ spaceBehind kept i)
  /-- So does a `Save` statement that is not a `Merge` statement as well. -/
  save : ∀ (i : Nat) (line : Text), kept[i]? = some line → ¬ "Merge".toList <:+: line →
    "Save".toList <:+: line →
    finished.script.lines[i]? =
        some ("Save \"".toList ++ base ++ ".msh\";".toList ++ spaceBehind kept i) ∧
      finished'.script.lines[i]? =
        some ("Save \"".toList ++ other ++ ".msh\";".toList ++ spaceBehind kept i)

/-! ## One line -/

section Line

variable {base line : Text}

theorem normalLine_of_merge (h : "Merge".toList <:+: line) :
    normalLine base line = "Merge \"".toList ++ base ++ ".brep\";\n".toList := by
  unfold normalLine
  rw [if_pos (Text.includes_iff.2 h)]

theorem normalLine_of_save (hmerge : ¬ "Merge".toList <:+: line) (h : "Save".toList <:+: line) :
    normalLine base line = "Save \"".toList ++ base ++ ".msh\";".toList := by
  unfold normalLine
  rw [if_neg (by rwa [Text.includes_iff]), if_pos (Text.includes_iff.2 h)]

/-- The normal form of any other line does not depend on the base name. -/
theorem normalLine_base (other : Text) (hmerge : ¬ "Merge".toList <:+: line)
    (hsave : ¬ "Save".toList <:+: line) : normalLine base line = normalLine other line := by
  have hnoMerge : line.includes "Merge".toList = false := by
    rwa [← Bool.not_eq_true, Text.includes_iff]
  have hnoSave : line.includes "Save".toList = false := by
    rwa [← Bool.not_eq_true, Text.includes_iff]
  unfold normalLine
  simp only [hnoMerge, hnoSave, Bool.false_eq_true, if_false]

end Line

/-! ## The finished script -/

/-- A kept line in a finished script, for a base name without a quote. -/
theorem getElem?_lines_ofLines_of_kept {base : Text} (hbase : '"' ∉ base) {lines : List Text}
    {i : Nat} {line : Text} (h : lines[i]? = some line) (surfaces : SurfaceList) :
    (Finished.ofLines base lines surfaces).script.lines[i]? =
      some (normalLine base line ++ spaceBehind lines i) := by
  rw [getElem?_lines_ofLines, h]
  simp only [editLine_eq_normalLine hbase, spaceBefore_drop]

theorem sameButBase_ofLines {base other : Text} (hbase : '"' ∉ base) (hother : '"' ∉ other)
    (lines : List Text) (surfaces : SurfaceList) :
    SameButBase lines base other (.ofLines base lines surfaces)
      (.ofLines other lines surfaces) := by
  constructor
  case surfaces => rfl
  case edits => exact Draft.edits_base hbase hother lines
  case appended => rfl
  case length =>
    show (Rule.editLines base lines ++ _).length = (Rule.editLines other lines ++ _).length
    rw [List.length_append, List.length_append, Rule.length_editLines, Rule.length_editLines]
  case same =>
    intro i hplain
    cases hline : lines[i]? with
    | none =>
      -- the line is one of the block, which does not know the base name
      rw [getElem?_lines_ofLines, getElem?_lines_ofLines, hline]
    | some line =>
      obtain ⟨hmerge, hsave⟩ := hplain line hline
      rw [getElem?_lines_ofLines_of_kept hbase hline, getElem?_lines_ofLines_of_kept hother hline,
        normalLine_base other hmerge hsave]
  case merge =>
    intro i line hline hmerge
    rw [getElem?_lines_ofLines_of_kept hbase hline, getElem?_lines_ofLines_of_kept hother hline,
      normalLine_of_merge hmerge, normalLine_of_merge hmerge]
    exact ⟨rfl, rfl⟩
  case save =>
    intro i line hline hmerge hsave
    rw [getElem?_lines_ofLines_of_kept hbase hline, getElem?_lines_ofLines_of_kept hother hline,
      normalLine_of_save hmerge hsave, normalLine_of_save hmerge hsave]
    exact ⟨rfl, rfl⟩

/-- **The base name is isolated.** For two base names without quotes a script has no normal form,
with the same error, or two that are the same but for the base name in the `Merge` and `Save`
statements: whatever a base name holds fires no rule, drops no line and changes no count. -/
theorem normalize_base {base other : Text} (hbase : '"' ∉ base) (hother : '"' ∉ other)
    (script : Script) :
    (∃ e, ((normalize base).run script).outcome = .error e ∧
      ((normalize other).run script).outcome = .error e) ∨
    ∃ finished finished', ((normalize base).run script).outcome = .ok finished ∧
      ((normalize other).run script).outcome = .ok finished' ∧
      SameButBase script.keptLines base other finished finished' := by
  rw [normalize_outcome, normalize_outcome, finish, finish]
  cases Rule.surfacesOf script.keptLines with
  | none => exact Or.inl ⟨_, rfl, rfl⟩
  | some surfaces =>
    exact Or.inr ⟨_, _, rfl, rfl, sameButBase_ofLines hbase hother script.keptLines surfaces⟩

/-- Both statements, with an element-order line between them and a wall group. -/
def sampleStatements : Script :=
  ⟨["Merge \"a.brep\";".toList, "Mesh.ElementOrder = 2;".toList, "Save \"a.unv\";".toList,
    "S(\"mg_wall\") = \x7b7\x7d;".toList]⟩

/-- A base name with a token, two triggers, a comment and a line feed is written as it stands. -/
theorem normalize_base_sample :
    '"' ∉ "wing".toList ∧ '"' ∉ "mg_wall//Save\nMerge".toList ∧
      ∃ finished finished',
        ((normalize "wing".toList).run sampleStatements).outcome = .ok finished ∧
        ((normalize "mg_wall//Save\nMerge".toList).run sampleStatements).outcome = .ok finished' ∧
        finished.edits = finished'.edits ∧
        finished.script.lines[0]? = some "Merge \"wing.brep\";\n\n".toList ∧
        finished'.script.lines[0]? = some "Merge \"mg_wall//Save\nMerge.brep\";\n\n".toList ∧
        finished.script.lines[3]? = finished'.script.lines[3]? := by
  have hbase : '"' ∉ "wing".toList := by decide
  have hother : '"' ∉ "mg_wall//Save\nMerge".toList := by decide
  have hkept : sampleStatements.keptLines = sampleStatements.lines := by decide +kernel
  have hsurfaces : (Rule.surfacesOf sampleStatements.lines).isSome = true := by decide +kernel
  refine ⟨hbase, hother, ?_⟩
  rcases normalize_base hbase hother sampleStatements with
    ⟨e, herror, -⟩ | ⟨finished, finished', hok, hok', hsame⟩
  · rw [normalize_outcome, hkept, finish] at herror
    split at herror
    · rename_i hnone
      rw [hnone] at hsurfaces
      cases hsurfaces
    · cases herror
  · rw [hkept] at hsame
    have hmerge := hsame.merge 0 "Merge \"a.brep\";".toList rfl
      (Text.includes_iff.1 (by decide +kernel))
    have hspace : spaceBehind sampleStatements.lines 0 = ['\n'] := by decide +kernel
    have hplain : ∀ line, sampleStatements.lines[3]? = some line →
        ¬ "Merge".toList <:+: line ∧ ¬ "Save".toList <:+: line := by
      intro line hline
      obtain rfl := Option.some.inj hline
      rw [← Text.includes_iff, ← Text.includes_iff]
      decide +kernel
    have hwing : "Merge \"".toList ++ "wing".toList ++ ".brep\";\n".toList ++ ['\n'] =
        "Merge \"wing.brep\";\n\n".toList := by
      decide +kernel
    have hstrange : "Merge \"".toList ++ "mg_wall//Save\nMerge".toList ++ ".brep\";\n".toList ++
        ['\n'] = "Merge \"mg_wall//Save\nMerge.brep\";\n\n".toList := by
      decide +kernel
    rw [hspace, hwing, hstrange] at hmerge
    exact ⟨finished, finished', hok, hok', hsame.edits, hmerge.1, hmerge.2, hsame.same 3 hplain⟩

end MeshScript
