import MeshScript.Proofs.Normalize.Outcome
import MeshScript.Proofs.SurfaceList
/-!
# MeshScript.Proofs.Normalize.Surfaces -- which line supplies the surfaces

Whether a text has a normal form is decided by one of its lines: the last one that names a
wall group and that cleaning keeps (`Text.LastWallLine`). If it has a brace group, the text
between its braces goes into the refinement field as it stands. If it has none, or if there is
no such line, normalization fails, and in one way only. The base name has no say in that, nor
has any other line, nor what the rules make of the line itself (`normalizeText_surfaces`).
-/

namespace MeshScript

/-! ## The line -/

namespace Text

/-- **The line names a wall group**, quoted or not, and cleaning keeps it. -/
structure NamesWall (line : Text) : Prop where
  notBlank : line.isBlank = false
  notExcluded : ∀ exclusion ∈ Exclusion.table, ¬ exclusion.pattern <:+: line
  token : "mg_wall".toList <:+: line

/-- **The last line of a text** that names a wall group. -/
def LastWallLine (source line : Text) : Prop :=
  ∃ front back, source.lines = front ++ line :: back ∧ line.NamesWall ∧
    ∀ later ∈ back, ¬ later.NamesWall

/-- The last line that a filter keeps is the one behind which it keeps none. -/
theorem getLast?_filter_eq_some_iff {lines : List Text} {keeps : Text → Bool} {line : Text} :
    (lines.filter keeps).getLast? = some line ↔
      ∃ front back, lines = front ++ line :: back ∧ keeps line = true ∧
        ∀ later ∈ back, keeps later = false := by
  rw [List.getLast?_filter, List.find?_eq_some_iff_append]
  -- the search goes backwards, so what it passes over is what comes later
  constructor
  · rintro ⟨hline, back, front, hlines, hback⟩
    refine ⟨front.reverse, back.reverse, ?_, hline, ?_⟩
    · rw [← List.reverse_reverse lines, hlines]
      simp
    · simpa using hback
  · rintro ⟨front, back, rfl, hline, hback⟩
    exact ⟨hline, back.reverse, front.reverse, by simp, by simpa using hback⟩

/-- Cleaning and the wall rule together take exactly the lines that name a wall group. -/
theorem namesWall_iff {line : Text} :
    line.NamesWall ↔ (Rule.isWallLine line && !line.isExcluded && !line.isBlank) = true := by
  rw [Rule.isWallLine_eq, Bool.and_eq_true, Bool.and_eq_true, Bool.not_eq_true',
    Bool.not_eq_true', isExcluded_eq_false_iff, includes_iff]
  exact ⟨fun h => ⟨⟨h.token, h.notExcluded⟩, h.notBlank⟩, fun h => ⟨h.2, h.1.2, h.1.1⟩⟩

/-- The last line that names a wall group is the last kept line on which the wall rule fires. -/
theorem lastWallLine_iff {source line : Text} :
    source.LastWallLine line ↔
      ((Script.parse source).keptLines.filter Rule.isWallLine).getLast? = some line := by
  rw [Script.keptLines, Script.parse, List.filter_filter, List.filter_filter,
    getLast?_filter_eq_some_iff]
  simp only [LastWallLine, namesWall_iff, Bool.not_eq_true]

/-- There is only one last line. -/
theorem LastWallLine.unique {source line other : Text} (h : source.LastWallLine line)
    (h' : source.LastWallLine other) : line = other :=
  Option.some.inj ((lastWallLine_iff.1 h).symm.trans (lastWallLine_iff.1 h'))

end Text

/-! ## The surfaces -/

/-- The surfaces of lines are a part of one of them. -/
theorem raw_infix_of_surfacesOf {lines : List Text} {surfaces : SurfaceList}
    (h : Rule.surfacesOf lines = some surfaces) : ∃ line ∈ lines, surfaces.raw <:+: line := by
  obtain ⟨line, hline, hsurfaces⟩ := Option.bind_eq_some_iff.1 h
  have hmem : line ∈ lines := List.mem_of_mem_filter (List.mem_of_getLast? hline)
  exact ⟨line, hmem, SurfaceList.raw_infix_of_ofLine? hsurfaces⟩

/-- The surfaces of kept lines are those of the last line that names a wall group. -/
theorem surfacesOf_eq_some_iff {source : Text} {surfaces : SurfaceList} :
    Rule.surfacesOf (Script.parse source).keptLines = some surfaces ↔
      ∃ line, source.LastWallLine line ∧ SurfaceList.ofLine? line = some surfaces := by
  simp only [Rule.surfacesOf, Option.bind_eq_some_iff, Text.lastWallLine_iff]

theorem isSome_surfacesOf_iff {source : Text} :
    (Rule.surfacesOf (Script.parse source).keptLines).isSome = true ↔
      ∃ line, source.LastWallLine line ∧ line.HasBraces := by
  rw [Option.isSome_iff_exists]
  simp only [surfacesOf_eq_some_iff, ← SurfaceList.isSome_ofLine?_iff, Option.isSome_iff_exists]
  constructor
  · rintro ⟨surfaces, line, hline, hsurfaces⟩
    exact ⟨line, hline, surfaces, hsurfaces⟩
  · rintro ⟨line, hline, surfaces, hsurfaces⟩
    exact ⟨surfaces, line, hline, hsurfaces⟩

/-- Texts with the same last line that names a wall group have the same surfaces. -/
theorem surfacesOf_congr {source other : Text}
    (h : ∀ line, source.LastWallLine line ↔ other.LastWallLine line) :
    Rule.surfacesOf (Script.parse source).keptLines =
      Rule.surfacesOf (Script.parse other).keptLines := by
  ext surfaces
  rw [surfacesOf_eq_some_iff, surfacesOf_eq_some_iff]
  exact exists_congr fun line => and_congr_left' (h line)

/-- The surfaces of a normalization do not depend on what becomes of the lines. -/
theorem surfaces_outcome (base : Text) (script : Script) :
    ((normalize base).run script).outcome.map (·.surfaces) =
      match Rule.surfacesOf script.keptLines with
      | none => .error (.noSurfaceList Rule.wallToken)
      | some surfaces => .ok surfaces := by
  rw [normalize_outcome, finish]
  cases Rule.surfacesOf script.keptLines <;> rfl

theorem normalizeText_of_surfacesOf {source : Text} {surfaces : SurfaceList}
    (h : Rule.surfacesOf (Script.parse source).keptLines = some surfaces) (base : Text) :
    normalizeText source base =
      .ok (Text.unlines
        (Rule.editLines base (Script.parse source).keptLines ++ refinementBlock surfaces)) := by
  rw [normalizeText_eq, finish, h]
  rfl

theorem normalizeText_of_surfacesOf_eq_none {source : Text}
    (h : Rule.surfacesOf (Script.parse source).keptLines = none) (base : Text) :
    normalizeText source base = .error (.noSurfaceList Rule.wallToken) := by
  rw [normalizeText_eq, finish, h]
  rfl

/-- **When there is a normal form, and with which surfaces.** There is one exactly if the last
line that names a wall group has a brace group, and the only failure is that it has none. The
text between the first opening brace of that line and the first closing one behind it goes
into the refinement field as it stands. Two texts that agree on that line agree on this, for
any two base names. -/
theorem normalizeText_surfaces (source base : Text) :
    ((∃ output, normalizeText source base = .ok output) ↔
      ∃ line, source.LastWallLine line ∧ line.HasBraces) ∧
    (∀ e, normalizeText source base = .error e ↔
      e = .noSurfaceList "mg_wall".toList ∧
        ¬ ∃ line, source.LastWallLine line ∧ line.HasBraces) ∧
    (∀ line front raw back, source.LastWallLine line →
      line = front ++ '{' :: (raw ++ '}' :: back) → '{' ∉ front → ∀ hraw : '}' ∉ raw,
      normalizeText source base =
        .ok (Text.unlines (Rule.editLines base (Script.parse source).keptLines ++
          refinementBlock ⟨raw, hraw⟩))) ∧
    ∀ other otherBase, (∀ line, source.LastWallLine line ↔ other.LastWallLine line) →
      ((normalize base).run (Script.parse source)).outcome.map (·.surfaces) =
        ((normalize otherBase).run (Script.parse other)).outcome.map (·.surfaces) := by
  rw [← isSome_surfacesOf_iff]
  refine ⟨?_, ?_, ?_, ?_⟩
  · cases hsurfaces : Rule.surfacesOf (Script.parse source).keptLines with
    | none =>
      rw [normalizeText_of_surfacesOf_eq_none hsurfaces]
      simp only [reduceCtorEq, exists_false, Option.isSome_none, Bool.false_eq_true]
    | some surfaces =>
      rw [normalizeText_of_surfacesOf hsurfaces]
      exact ⟨fun _ => rfl, fun _ => ⟨_, rfl⟩⟩
  · intro e
    cases hsurfaces : Rule.surfacesOf (Script.parse source).keptLines with
    | none =>
      rw [normalizeText_of_surfacesOf_eq_none hsurfaces]
      exact ⟨fun h => ⟨(Except.error.inj h).symm, Bool.false_ne_true⟩, fun h => h.1 ▸ rfl⟩
    | some surfaces =>
      rw [normalizeText_of_surfacesOf hsurfaces]
      exact ⟨fun h => (nomatch h), fun h => absurd rfl h.2⟩
  · intro line front raw back hline hcut hfront hraw
    exact normalizeText_of_surfacesOf (surfacesOf_eq_some_iff.2
      ⟨line, hline, SurfaceList.ofLine?_eq_some_iff.2 ⟨front, back, hcut, hfront⟩⟩) base
  · intro other otherBase hsame
    rw [surfaces_outcome, surfaces_outcome, surfacesOf_congr hsame]

/-- Three lines with a wall token: an ordinary one, the one that counts, and a comment. -/
def sampleWalls : Text :=
  "(\"mg_wall\") \x7b1\x7d;\nMerge mg_wall \x7b7, \x7b8\x7d \x7b9\x7d\nx;\n//mg_wall\x7b\x7d".toList

/-- The line that counts is replaced as a whole, and yet the field has the text between its
braces; the quote in the base name changes nothing. -/
theorem normalizeText_surfaces_sample :
    sampleWalls.LastWallLine "Merge mg_wall \x7b7, \x7b8\x7d \x7b9\x7d".toList ∧
      normalizeText sampleWalls "a\"b".toList =
        .ok ("(1) \x7b1\x7d;\nMerge \"a\"b.brep\";\n\nx;\n".toList ++
          Text.unlines (refinementBlock ⟨"7, \x7b8".toList, by decide⟩)) := by
  have hline : sampleWalls.LastWallLine "Merge mg_wall \x7b7, \x7b8\x7d \x7b9\x7d".toList :=
    Text.lastWallLine_iff.2 (by decide +kernel)
  have hedited : Rule.editLines "a\"b".toList (Script.parse sampleWalls).keptLines =
      ["(1) \x7b1\x7d;".toList, "Merge \"a\"b.brep\";\n".toList, "x;".toList] := by
    decide +kernel
  refine ⟨hline, ?_⟩
  rw [(normalizeText_surfaces sampleWalls "a\"b".toList).2.2.1 _ "Merge mg_wall ".toList
    "7, \x7b8".toList " \x7b9\x7d".toList hline rfl (by decide) (by decide), hedited,
    Text.unlines_append]
  rfl

end MeshScript
