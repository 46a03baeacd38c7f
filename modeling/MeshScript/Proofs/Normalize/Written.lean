import MeshScript.Proofs.Normalize.WallGroup
import MeshScript.Proofs.Substitution.Edits
import Mathlib.Data.List.Count
/-!
# MeshScript.Proofs.Normalize.Written -- what can be read off a written script

The text of a finished script shows how it came about. Its line feeds are those of the kept
lines and of the block, one more for each `Merge` statement, and one more before each
element-order line that is not the first line (`count_newline_render_ofLines`). And the surfaces
can be read back from its fifth line from the end, whatever lines the edits may have left in front
(`surfacesLine_of_render`). `surfaces_read_back` sets that beside the reading of a brace group
itself: writing a list into the block and reading the block are inverse to each other.
-/

namespace MeshScript

/-! ## Line feeds -/

section LineFeeds

variable {base : Text}

/-- A neutral character is not touched by the group rules, so it stands in an edited line as often
as in its normal form, also if the base name holds a quote. -/
theorem count_editLine {c : Char} (hc : Rule.Neutral c) (base line : Text) :
    (Rule.editLine base line).count c = (normalLine base line).count c := by
  have hgroup : Rule.groupRules.filter (·.firesOn line) ⊆ Rule.groupRules :=
    List.filter_subset_self _
  rw [Rule.editLine_eq_applyAll, Rule.count_applyAll hgroup hc, normalLine_eq_deciding]
  cases Rule.deciding? line with
  | some rule => rfl
  | none =>
    show line.count c = (numberGroups line).count c
    rw [numberGroups_eq_applyAll base, Rule.count_applyAll (List.Subset.refl _) hc]

/-- **The line feeds of an edited line**: a `Merge` statement has one, and no other line has any. -/
theorem count_newline_editLine (hbase : '\n' ∉ base) {line : Text} (hline : '\n' ∉ line) :
    (Rule.editLine base line).count '\n' = if line.includes "Merge".toList then 1 else 0 := by
  have hfeed : Rule.Neutral '\n' := Rule.neutral_of_mem _ (by decide)
  have hnumbered : (numberGroups line).count '\n' = 0 := by
    rw [List.count_eq_zero, mem_numberGroups_iff hfeed]
    exact hline
  have hmerge : ("Merge \"".toList ++ base ++ ".brep\";\n".toList).count '\n' = 1 := by
    rw [List.count_append, List.count_append, List.count_eq_zero_of_not_mem hbase]
    decide
  have hsave : ("Save \"".toList ++ base ++ ".msh\";".toList).count '\n' = 0 := by
    rw [List.count_append, List.count_append, List.count_eq_zero_of_not_mem hbase]
    decide
  rw [count_editLine hfeed]
  unfold normalLine
  split
  · exact hmerge
  · split_ifs
    · exact hsave
    · decide
    · decide
    · decide
    · decide
    · exact hnumbered

/-- **The line feeds of edited lines**: a terminator for each, one more for each `Merge` statement,
and one more before each element-order line, except that the first line has none before it. -/
theorem count_newline_unlines_editLines (hbase : '\n' ∉ base) {lines : List Text}
    (hlines : ∀ line ∈ lines, '\n' ∉ line) :
    (Text.unlines (Rule.editLines base lines)).count '\n' +
        (if lines.head?.any (·.includes "ElementOrder".toList) then 1 else 0) =
      lines.length + lines.countP (·.includes "Merge".toList) +
        lines.countP (·.includes "ElementOrder".toList) := by
  induction lines with
  | nil => rfl
  | cons line rest ih =>
    have hspace : (Rule.spaceBefore rest).count '\n' =
        if rest.head?.any (·.includes "ElementOrder".toList) then 1 else 0 := by
      rw [Rule.spaceBefore, funext Rule.asksForSpace_eq]
      split <;> rfl
    have hrest := ih fun other hmem => hlines other (List.mem_cons_of_mem line hmem)
    rw [Rule.editLines, Text.unlines_cons, List.count_append, List.count_append,
      List.count_cons_self, count_newline_editLine hbase (hlines line List.mem_cons_self), hspace,
      List.length_cons, List.countP_cons, List.countP_cons, List.head?_cons, Option.any_some]
    omega

theorem newline_notMem_of_mem_keptLines {source line : Text}
    (h : line ∈ (Script.parse source).keptLines) : '\n' ∉ line :=
  Text.notMem_of_mem_lines (Script.mem_keptLines.1 h).1

theorem newline_notMem_raw {lines : List Text} (hlines : ∀ line ∈ lines, '\n' ∉ line)
    {surfaces : SurfaceList} (h : Rule.surfacesOf lines = some surfaces) : '\n' ∉ surfaces.raw := by
  obtain ⟨line, hmem, hpart⟩ := raw_infix_of_surfacesOf h
  exact fun hfeed => hlines line hmem (hpart.subset hfeed)

/-- The block has a line feed for each line, and one blank line. -/
theorem count_newline_refinementBlock {surfaces : SurfaceList} (h : '\n' ∉ surfaces.raw) :
    (Text.unlines (refinementBlock surfaces)).count '\n' =
      (refinementBlock surfaces).length + 1 := by
  have hstart : blockStart.count '\n' = 6 := by decide +kernel
  have hend : blockEnd.count '\n' = 5 := by decide +kernel
  rw [unlines_refinementBlock, List.count_append, List.count_append, hstart, hend,
    List.count_eq_zero_of_not_mem h]
  rfl

/-- The tally of the element-order lines, and that of the `Merge` statements. -/
theorem count_edits_includes {name trigger : Text}
    (h : ∃ rule ∈ Rule.wholeLineRules, rule.name = name ∧ rule.trigger = trigger) (base : Text)
    (lines : List Text) :
    (Draft.ofScript base ⟨lines⟩).edits.count name = lines.countP (·.includes trigger) := by
  obtain ⟨rule, hmem, rfl, rfl⟩ := h
  exact Draft.count_edits_of_replacesLine hmem base lines

/-- **The line feeds of a finished script** are told by its counts. -/
theorem count_newline_render_ofLines (hbase : '\n' ∉ base) {lines : List Text}
    (hlines : ∀ line ∈ lines, '\n' ∉ line) {surfaces : SurfaceList}
    (h : Rule.surfacesOf lines = some surfaces) :
    (Finished.ofLines base lines surfaces).script.render.count '\n' +
        (if lines.head?.any (·.includes "ElementOrder".toList) then 1 else 0) =
      lines.length + (Finished.ofLines base lines surfaces).appended + 1 +
        (Finished.ofLines base lines surfaces).edits.count "merge".toList +
        (Finished.ofLines base lines surfaces).edits.count "element-order".toList := by
  have hmerge : ∃ rule ∈ Rule.wholeLineRules,
      rule.name = "merge".toList ∧ rule.trigger = "Merge".toList := by decide
  have horder : ∃ rule ∈ Rule.wholeLineRules,
      rule.name = "element-order".toList ∧ rule.trigger = "ElementOrder".toList := by decide
  have hedited := count_newline_unlines_editLines hbase hlines
  have hblock := count_newline_refinementBlock (newline_notMem_raw hlines h)
  rw [render_ofLines, List.count_append, hblock]
  simp only [Finished.ofLines, count_edits_includes hmerge, count_edits_includes horder]
  omega

end LineFeeds

/-! ## The surfaces -/

theorem newline_notMem_surfacesLine {surfaces : SurfaceList} (h : '\n' ∉ surfaces.raw) :
    '\n' ∉ surfacesLine surfaces := by
  have hstart : '\n' ∉ "Field[1].SurfacesList = ".toList := by decide
  rw [surfacesLine_eq]
  simp only [List.mem_append, List.mem_cons, hstart, h, List.not_mem_nil, or_false, false_or]
  decide

theorem dropReturn_surfacesLine (surfaces : SurfaceList) :
    (surfacesLine surfaces).dropReturn = surfacesLine surfaces := by
  have hlast : (surfacesLine surfaces).getLast? = some ';' := by
    rw [surfacesLine_eq, List.getLast?_append, List.getLast?_cons, List.getLast?_append]
    rfl
  apply Text.dropReturn_eq_self
  unfold Text.EndsInReturn
  rw [hlast]
  decide

/-- The lines of the block from the refinement field on are read back as they were written. -/
theorem lines_unlines_drop_refinementBlock {surfaces : SurfaceList} (h : '\n' ∉ surfaces.raw) :
    Text.lines (Text.unlines ((refinementBlock surfaces).drop 5)) =
      (refinementBlock surfaces).drop 5 := by
  have hdrop : (refinementBlock surfaces).drop 5 =
      surfacesLine surfaces :: (refinementBlock surfaces).drop 6 := rfl
  have hbehind : Text.lines (Text.unlines ((refinementBlock surfaces).drop 6)) =
      (refinementBlock surfaces).drop 6 := by
    simp only [refinementBlock, List.drop_succ_cons, List.drop_zero]
    decide +kernel
  rw [hdrop, Text.unlines_cons, Text.lines_append_newline (newline_notMem_surfacesLine h),
    dropReturn_surfacesLine, hbehind]

/-- **The refinement field** is read back from the text of a finished script, five lines from the
end. -/
theorem surfacesLine_of_render (base : Text) {lines : List Text}
    (hlines : ∀ line ∈ lines, '\n' ∉ line) {surfaces : SurfaceList}
    (h : Rule.surfacesOf lines = some surfaces) :
    (Script.parse (Finished.ofLines base lines surfaces).script.render).lines.reverse[4]? =
      some (surfacesLine surfaces) := by
  have hblock := List.take_append_drop 5 (refinementBlock surfaces)
  have hrender : (Finished.ofLines base lines surfaces).script.render =
      Text.unlines (Rule.editLines base lines ++ (refinementBlock surfaces).take 5) ++
        Text.unlines ((refinementBlock surfaces).drop 5) := by
    rw [← Text.unlines_append, List.append_assoc, hblock]
    rfl
  rw [hrender, Script.parse, Text.lines_unlines_append,
    lines_unlines_drop_refinementBlock (newline_notMem_raw hlines h), List.reverse_append]
  rfl

/-! ## Writing a list and reading it -/

/-- One line of the block lists surfaces. -/
theorem filter_refinementBlock (surfaces : SurfaceList) :
    (refinementBlock surfaces).filter (·.includes "SurfacesList".toList) =
      [surfacesLine surfaces] := by
  have hline : (surfacesLine surfaces).includes "SurfacesList".toList = true := by
    have hword : "SurfacesList".toList <:+: "Field[1].SurfacesList = ".toList :=
      Text.includes_iff.1 (by decide +kernel)
    exact Text.includes_iff.2 (hword.trans (start_prefix_surfacesLine surfaces).isInfix)
  have hbefore : ((refinementBlock surfaces).take 5).filter (·.includes "SurfacesList".toList) =
      [] := by
    simp only [refinementBlock, List.take_succ_cons, List.take_zero]
    decide +kernel
  have hbehind : ((refinementBlock surfaces).drop 6).filter (·.includes "SurfacesList".toList) =
      [] := by
    simp only [refinementBlock, List.drop_succ_cons, List.drop_zero]
    decide +kernel
  have hcut : refinementBlock surfaces = (refinementBlock surfaces).take 5 ++
      surfacesLine surfaces :: (refinementBlock surfaces).drop 6 := rfl
  rw [hcut, List.filter_append, hbefore, List.filter_cons, if_pos hline, hbehind]
  rfl

/-- The list that a normalization takes from its source is read back from the output. -/
theorem ofLine?_of_normalizeText {source base output : Text}
    (hok : normalizeText source base = .ok output) :
    ∃ wall surfaces, source.LastWallLine wall ∧ SurfaceList.ofLine? wall = some surfaces ∧
      (Script.parse output).lines.reverse[4]?.bind SurfaceList.ofLine? = some surfaces := by
  cases hsurfaces : Rule.surfacesOf (Script.parse source).keptLines with
  | none =>
    rw [normalizeText_of_surfacesOf_eq_none hsurfaces] at hok
    cases hok
  | some surfaces =>
    obtain ⟨wall, hwall, hlist⟩ := surfacesOf_eq_some_iff.1 hsurfaces
    have hfield := surfacesLine_of_render base (fun _ => newline_notMem_of_mem_keptLines) hsurfaces
    rw [normalizeText_of_surfacesOf hsurfaces] at hok
    obtain rfl := Except.ok.inj hok
    refine ⟨wall, surfaces, hwall, hlist, ?_⟩
    exact (congrArg (·.bind SurfaceList.ofLine?) hfield).trans
      (SurfaceList.ofLine?_surfacesLine surfaces)

/-- **Reading a surface list and writing it are inverse.** A line gives the list that stands in its
only cut at braces, which is the leftmost shortest group of the line, and none if it has no such
cut. The block for a list has one line that lists surfaces, and that gives the list back. And the
fifth line from the end of a normalized text gives the list of the last line of its source that
names a wall group. -/
theorem surfaces_read_back (line raw : Text) (surfaces : SurfaceList) (source base : Text) :
    ((SurfaceList.ofLine? line).map (·.raw) = some raw ↔
        ∃ front back, line.CutAtBraces front raw back) ∧
      (SurfaceList.ofLine? line = none ↔ ¬ ∃ front raw back, line.CutAtBraces front raw back) ∧
      (∀ front back, line.CutAtBraces front raw back ↔ line.IsFirstGroup front raw back) ∧
      (∀ front back front' raw' back', line.CutAtBraces front raw back →
        line.CutAtBraces front' raw' back' → front = front' ∧ raw = raw' ∧ back = back') ∧
      ((refinementBlock surfaces).filter (·.includes "SurfacesList".toList)).map
        SurfaceList.ofLine? = [some surfaces] ∧
      ∀ output, normalizeText source base = .ok output →
        ∃ wall taken, source.LastWallLine wall ∧ SurfaceList.ofLine? wall = some taken ∧
          (Script.parse output).lines.reverse[4]?.bind SurfaceList.ofLine? = some taken := by
  refine ⟨SurfaceList.map_raw_ofLine?_eq_some_iff, SurfaceList.ofLine?_eq_none_iff,
    fun _ _ => Text.isFirstGroup_iff.symm, fun _ _ _ _ _ => Text.CutAtBraces.unique, ?_,
    fun _ => ofLine?_of_normalizeText⟩
  rw [filter_refinementBlock, List.map_singleton, SurfaceList.ofLine?_surfacesLine]

/-- Two groups behind a closing brace; an opening brace and a line feed stand in the first one. -/
def sampleGroups : Text :=
  "\x7d a \x7b1,\n\x7b2\x7d b \x7b3\x7d".toList

/-- A list with a carriage return in it, on the last line and in a statement that is replaced. -/
def sampleListed : Text :=
  "\x7b1\x7d mg_wall\nMerge mg_wall \x7b7,\r\x7b8 \x7d \x7d".toList

/-- The first group ends at its first closing brace, and the list comes back with its carriage
return, also if the base name breaks its line. -/
theorem surfaces_read_back_sample :
    (SurfaceList.ofLine? sampleGroups).map (·.raw) = some "1,\n\x7b2".toList ∧
      ∃ output, normalizeText sampleListed "a\n\"".toList = .ok output ∧
        (Script.parse output).lines.reverse[4]?.bind SurfaceList.ofLine? =
          some ⟨"7,\r\x7b8 ".toList, by decide⟩ := by
  have hcut : sampleGroups.CutAtBraces "\x7d a ".toList "1,\n\x7b2".toList
      " b \x7b3\x7d".toList :=
    ⟨by decide +kernel, by decide, by decide⟩
  have hline : sampleListed.LastWallLine "Merge mg_wall \x7b7,\r\x7b8 \x7d \x7d".toList :=
    Text.lastWallLine_iff.2 (by decide +kernel)
  have hlist : SurfaceList.ofLine? "Merge mg_wall \x7b7,\r\x7b8 \x7d \x7d".toList =
      some ⟨"7,\r\x7b8 ".toList, by decide⟩ := by
    decide +kernel
  have hok := normalizeText_of_surfacesOf (surfacesOf_eq_some_iff.2 ⟨_, hline, hlist⟩)
    "a\n\"".toList
  obtain ⟨hread, -, -, -, -, hback⟩ := surfaces_read_back sampleGroups "1,\n\x7b2".toList
    ⟨[], by decide⟩ sampleListed "a\n\"".toList
  obtain ⟨wall, taken, hwall, htaken, hfield⟩ := hback _ hok
  obtain rfl := hline.unique hwall
  refine ⟨hread.2 ⟨_, _, hcut⟩, _, hok, ?_⟩
  rw [hfield, ← htaken, hlist]

end MeshScript
