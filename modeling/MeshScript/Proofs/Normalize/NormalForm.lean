import MeshScript.Proofs.Normalize.Outcome
import MeshScript.Proofs.Substitution.LastRule
/-!
# MeshScript.Proofs.Normalize.NormalForm -- the normal form of a script, written out

The specification of the normalization, with no stage, table or draft in it: `normalLine`
is a decision list over substrings, `normalText` goes down the kept lines, and the surface
list is that of the last kept line with the wall token. `normalizeText_eq_normalText` says
that normalization computes it, for every source text and every base name without a quote;
with a quote in the base name, a group rule can find a token in what a statement rule wrote.
-/

namespace MeshScript

/-! ## The specification -/

/-- A line with the number of its group over each quoted group token. -/
def numberGroups (line : Text) : Text :=
  line.replaceAll "\"mg_wall\"".toList "1".toList
    |>.replaceAll "\"mg_symmetry\"".toList "12".toList
    |>.replaceAll "\"mg_farfield\"".toList "9".toList
    |>.replaceAll "\"mg_interog\"".toList "11".toList
    |>.replaceAll "\"mg_volume\"".toList "4".toList

/-- **The normal form of a line**: decided by the first of the six substrings it holds, in
this order. -/
def normalLine (base line : Text) : Text :=
  if line.includes "Merge".toList then "Merge \"".toList ++ base ++ ".brep\";\n".toList
  else if line.includes "Save".toList then "Save \"".toList ++ base ++ ".msh\";".toList
  else if line.includes "ElementOrder".toList then "Mesh.ElementOrder = 1;".toList
  else if line.includes "Mesh.Algorithm3D =".toList then "Mesh.Algorithm3D = 10;".toList
  else if line.includes "Mesh.Algorithm =".toList then "Mesh.Algorithm = 1;".toList
  else if line.includes "Mesh.Format".toList then "Mesh.Format = 1;".toList
  else numberGroups line

/-- **The normal form of kept lines** as text: each line in normal form, a line feed more if
an element-order line follows, and its terminator. -/
def normalText (base : Text) : List Text → Text
  | [] => []
  | line :: rest =>
    normalLine base line ++
      (if rest.head?.any (·.includes "ElementOrder".toList) then ['\n'] else []) ++
      '\n' :: normalText base rest

/-- The ten lines that go behind the kept ones, as text up to the surface list. -/
def blockStart : Text :=
  Text.unlines
    [ "Mesh.MshFileVersion = 2.2;".toList,
      "Mesh.MeshSizeExtendFromBoundary = 0;".toList,
      "Mesh.RandomFactor = 1e-6;\n".toList,
      "lc = 10;".toList,
      "Field[1] = Distance;".toList ] ++
    "Field[1].SurfacesList = \x7b".toList

/-- The ten lines that go behind the kept ones, as text from the surface list on. -/
def blockEnd : Text :=
  Text.unlines
    [ "\x7d;".toList,
      "Field[1].NumPointsPerCurve = 200;".toList,
      "Field[2] = MathEval;".toList,
      "Field[2].F = Sprintf(\"F1/5 + %g\", lc);".toList,
      "Background Field = 2;".toList ]

/-- The surface list of the last line that holds the wall token. -/
def wallSurfaces? (lines : List Text) : Option SurfaceList :=
  (lines.filter (·.includes "mg_wall".toList)).getLast?.bind SurfaceList.ofLine?

/-! ## The rules compute it -/

theorem surfacesOf_eq_wallSurfaces? (lines : List Text) :
    Rule.surfacesOf lines = wallSurfaces? lines := by
  have hwall : Rule.isWallLine = (·.includes "mg_wall".toList) := funext Rule.isWallLine_eq
  rw [Rule.surfacesOf, hwall, wallSurfaces?]

/-- The decision list of a normal line is the search for the last whole-line rule. -/
theorem normalLine_eq_deciding (base line : Text) :
    normalLine base line =
      ((Rule.deciding? line).map (·.replacement base)).getD (numberGroups line) := by
  unfold normalLine Rule.deciding?
  -- read from the back, the table asks for the six substrings in the order of the list
  simp only [Rule.wholeLineRules, Rule.table, Rule.forGroup, List.filter, Rule.replacesLine,
    List.reverse_cons, List.reverse_nil, List.nil_append, List.cons_append, List.find?_cons,
    List.find?_nil, Rule.firesOn]
  cases line.includes "Merge".toList with
  | true => simp [Rule.replacement, Rule.edited?, Edit.edited?]
  | false =>
    cases line.includes "Save".toList with
    | true => simp [Rule.replacement, Rule.edited?, Edit.edited?]
    | false =>
      cases line.includes "ElementOrder".toList with
      | true => rfl
      | false =>
        cases line.includes "Mesh.Algorithm3D =".toList with
        | true => rfl
        | false =>
          cases line.includes "Mesh.Algorithm =".toList with
          | true => rfl
          | false => cases line.includes "Mesh.Format".toList <;> rfl

/-- **The eleven rules put a line into normal form.** -/
theorem editLine_eq_normalLine {base : Text} (hbase : '"' ∉ base) (line : Text) :
    Rule.editLine base line = normalLine base line := by
  rw [normalLine_eq_deciding]
  cases hdeciding : Rule.deciding? line with
  | some rule => exact Rule.editLine_of_deciding hbase hdeciding
  | none => exact Rule.editLine_of_undecided hdeciding base

theorem unlines_editLines {base : Text} (hbase : '"' ∉ base) (lines : List Text) :
    Text.unlines (Rule.editLines base lines) = normalText base lines := by
  induction lines with
  | nil => rfl
  | cons line rest ih =>
    have hspace : Rule.asksForSpace = (·.includes "ElementOrder".toList) :=
      funext Rule.asksForSpace_eq
    rw [Rule.editLines, Text.unlines_cons, ih, editLine_eq_normalLine hbase, Rule.spaceBefore,
      hspace]
    rfl

theorem unlines_refinementBlock (surfaces : SurfaceList) :
    Text.unlines (refinementBlock surfaces) = blockStart ++ surfaces.raw ++ blockEnd := by
  unfold refinementBlock blockStart blockEnd surfacesLine
  simp only [Text.unlines_cons, Text.unlines_nil]
  simp only [List.append_assoc, List.cons_append, List.nil_append]

/-- **Normalization, end to end.** For a base name without a quote the output is the normal
form of the kept lines and then the refinement block for the surfaces of the last wall-group
line among them; without such surfaces there is no output. -/
theorem normalizeText_eq_normalText {base : Text} (hbase : '"' ∉ base) (source : Text) :
    normalizeText source base =
      match wallSurfaces? (Script.parse source).keptLines with
      | none => .error (.noSurfaceList "mg_wall".toList)
      | some surfaces =>
        .ok (normalText base (Script.parse source).keptLines ++
          (blockStart ++ surfaces.raw ++ blockEnd)) := by
  rw [normalizeText_eq, finish, surfacesOf_eq_wallSurfaces?]
  cases wallSurfaces? (Script.parse source).keptLines with
  | none => rfl
  | some surfaces =>
    refine congrArg Except.ok ?_
    exact (render_ofLines _ _ _).trans (by
      rw [unlines_editLines hbase, unlines_refinementBlock])

/-- A script with two kinds of statements, a group and an excluded line. -/
theorem normalizeText_wing :
    '"' ∉ "wing".toList ∧
      normalizeText
        "Merge \"a.brep\";\n\nMesh.ElementOrder = 2;\n// x\nS(\"mg_wall\") = \x7b7\x7d;".toList
        "wing".toList =
        .ok ("Merge \"wing.brep\";\n\n\nMesh.ElementOrder = 1;\nS(1) = \x7b7\x7d;\n".toList ++
          (blockStart ++ "7".toList ++ blockEnd)) := by
  refine ⟨by decide, ?_⟩
  rw [normalizeText_eq_normalText (by decide)]
  rfl

end MeshScript
