import MeshScript.Proofs.Normalize.NormalForm
import MeshScript.Proofs.Normalize.Surfaces
/-!
# MeshScript.Proofs.Normalize.WallGroup -- the wall group and the refinement field

The surface list appears twice in a normal form: in the line of the wall group, and in the
refinement field. The field repeats the list of the exported line; the line itself has been
edited. `ofLine?_numberGroups` says what that does to its list: the group tokens in it become
numbers, and nothing else happens, because no token and no number holds a brace. So both lists
are the same text unless a quoted token stands between the braces (`normalizeText_wall_group`).
-/

namespace MeshScript

/-! ## Numbering groups around braces -/

theorem numberGroups_eq_applyAll (base line : Text) :
    numberGroups line = Rule.applyAll base Rule.groupRules line :=
  (Rule.applyAll_groupRules base line).symm

/-- Groups are numbered part by part, if the line is cut at a neutral character. -/
theorem numberGroups_append_cons {c : Char} (hc : Rule.Neutral c) (front back : Text) :
    numberGroups (front ++ c :: back) = numberGroups front ++ c :: numberGroups back := by
  simp only [numberGroups_eq_applyAll []]
  exact Rule.applyAll_append_cons (List.Subset.refl _) hc [] front back

theorem mem_numberGroups_iff {c : Char} (hc : Rule.Neutral c) {line : Text} :
    c ∈ numberGroups line ↔ c ∈ line := by
  rw [numberGroups_eq_applyAll []]
  exact Rule.mem_applyAll_iff (List.Subset.refl _) hc

/-- Without a quote there is no token to be numbered. -/
theorem numberGroups_eq_self {text : Text} (h : '"' ∉ text) : numberGroups text = text := by
  rw [numberGroups_eq_applyAll []]
  apply Rule.applyAll_eq_self (List.Subset.refl _)
  intro rule _ hin
  have hquote : '"' ∈ rule.quoted := List.mem_cons_self
  exact h (hin.subset hquote)

/-- The line of the refinement field is known by its start. -/
theorem start_prefix_surfacesLine (surfaces : SurfaceList) :
    "Field[1].SurfacesList = ".toList <+: surfacesLine surfaces := by
  rw [surfacesLine_eq]
  exact List.prefix_append _ _

namespace SurfaceList

/-- **The list with its groups numbered**: the number of its group over each quoted token. -/
def numbered (surfaces : SurfaceList) : SurfaceList where
  raw := numberGroups surfaces.raw
  closed := fun hmem =>
    surfaces.closed ((mem_numberGroups_iff (Rule.neutral_of_mem _ (by decide))).1 hmem)

theorem numbered_eq_self {surfaces : SurfaceList} (h : '"' ∉ surfaces.raw) :
    surfaces.numbered = surfaces := by
  cases surfaces
  simp only [numbered, numberGroups_eq_self h]

/-- What stands behind the line does not change its brace group. -/
theorem ofLine?_append_right {line : Text} {surfaces : SurfaceList}
    (h : ofLine? line = some surfaces) (rest : Text) : ofLine? (line ++ rest) = some surfaces := by
  obtain ⟨front, back, rfl, hfront⟩ := ofLine?_eq_some_iff.1 h
  refine ofLine?_eq_some_iff.2 ⟨front, back ++ rest, ?_, hfront⟩
  simp

/-- **Numbering goes on inside the braces.** The brace group of a numbered line is that of the line,
numbered; the first group stays the first, and none arises. -/
theorem ofLine?_numberGroups (line : Text) :
    ofLine? (numberGroups line) = (ofLine? line).map numbered := by
  have hopen : Rule.Neutral '{' := Rule.neutral_of_mem _ (by decide)
  have hclose : Rule.Neutral '}' := Rule.neutral_of_mem _ (by decide)
  by_cases hbrace : '{' ∈ line
  · obtain ⟨front, rest, rfl, hfront⟩ := List.eq_append_cons_of_mem hbrace
    have hfront' : '{' ∉ numberGroups front := by rwa [mem_numberGroups_iff hopen]
    rw [numberGroups_append_cons hopen, ofLine?_append hfront', ofLine?_append hfront]
    by_cases hclosed : '}' ∈ rest
    · rw [if_pos ((mem_numberGroups_iff hclose).2 hclosed), if_pos hclosed, Option.map_some]
      obtain ⟨raw, back, rfl, hraw⟩ := List.eq_append_cons_of_mem hclosed
      have hraw' : '}' ∉ numberGroups raw := by rwa [mem_numberGroups_iff hclose]
      simp only [numberGroups_append_cons hclose, takeWhile_ne_append hraw',
        takeWhile_ne_append hraw, numbered]
    · rw [if_neg fun hmem => hclosed ((mem_numberGroups_iff hclose).1 hmem), if_neg hclosed]
      rfl
  · rw [ofLine?_of_notMem hbrace,
      ofLine?_of_notMem fun hmem => hbrace ((mem_numberGroups_iff hopen).1 hmem)]
    rfl

/-- **The line of the refinement field** gives back the list that it repeats. -/
theorem ofLine?_surfacesLine (surfaces : SurfaceList) :
    ofLine? (surfacesLine surfaces) = some surfaces := by
  refine ofLine?_eq_some_iff.2 ⟨_, [';'], surfacesLine_eq surfaces, ?_⟩
  decide

end SurfaceList

/-! ## The two lists -/

/-- The surfaces of lines are those of the last wall-group line. -/
theorem surfacesOf_append_cons {front back : List Text} {wall : Text}
    (hwall : "mg_wall".toList <:+: wall) (hlast : ∀ line ∈ back, ¬ "mg_wall".toList <:+: line) :
    Rule.surfacesOf (front ++ wall :: back) = SurfaceList.ofLine? wall := by
  have hnone : back.filter (·.includes "mg_wall".toList) = [] := by
    rw [List.filter_eq_nil_iff]
    intro line hmem
    rw [Text.includes_iff]
    exact hlast line hmem
  have htaken : (wall :: back).filter (·.includes "mg_wall".toList) = [wall] := by
    rw [List.filter_cons, if_pos (Text.includes_iff.2 hwall), hnone]
  rw [surfacesOf_eq_wallSurfaces?, wallSurfaces?, List.filter_append, htaken, List.getLast?_concat]
  rfl

/-- A line without a whole-line trigger only has its groups numbered, whatever the base name. -/
theorem editLine_of_not_wholeLine {line : Text}
    (h : ∀ rule ∈ Rule.wholeLineRules, ¬ rule.trigger <:+: line) (base : Text) :
    Rule.editLine base line = numberGroups line := by
  apply Rule.editLine_of_undecided
  rw [Rule.deciding?, List.find?_eq_none]
  intro rule hmem
  rw [Rule.firesOn, Text.includes_iff]
  exact h rule (List.mem_reverse.1 hmem)

/-- **The refinement field and the wall group agree.** If no whole-line rule fires on the last kept
line with the wall token, its line in the normal form has the brace group of the exported line
with the groups in it numbered, and the refinement field has that group as it was. Without
quotes in it they are the same list. -/
theorem normalizeText_wall_group {source base output wall : Text} {front back : List Text}
    (hok : normalizeText source base = .ok output)
    (hkept : (Script.parse source).keptLines = front ++ wall :: back)
    (hwall : "mg_wall".toList <:+: wall) (hlast : ∀ line ∈ back, ¬ "mg_wall".toList <:+: line)
    (hrules : ∀ rule ∈ Rule.wholeLineRules, ¬ rule.trigger <:+: wall) :
    ∃ finished surfaces wallLine fieldLine,
      ((normalize base).run (Script.parse source)).outcome = .ok finished ∧
      output = finished.script.render ∧
      SurfaceList.ofLine? wall = some surfaces ∧
      finished.script.lines[front.length]? = some wallLine ∧
      SurfaceList.ofLine? wallLine = some surfaces.numbered ∧
      finished.script.lines[(Script.parse source).keptLines.length + 5]? = some fieldLine ∧
      "Field[1].SurfacesList = ".toList <+: fieldLine ∧
      SurfaceList.ofLine? fieldLine = some surfaces ∧
      ('"' ∉ surfaces.raw → SurfaceList.ofLine? wallLine = SurfaceList.ofLine? fieldLine) := by
  have hsurfacesOf : Rule.surfacesOf (Script.parse source).keptLines =
      SurfaceList.ofLine? wall := by
    rw [hkept, surfacesOf_append_cons hwall hlast]
  cases hsurfaces : SurfaceList.ofLine? wall with
  | none =>
    rw [normalizeText_of_surfacesOf_eq_none (hsurfacesOf.trans hsurfaces)] at hok
    cases hok
  | some surfaces =>
    have hfinish : finish base (Script.parse source).keptLines =
        .ok (.ofLines base (Script.parse source).keptLines surfaces) := by
      rw [finish, hsurfacesOf, hsurfaces]
    have houtput := hok
    rw [normalizeText_eq, hfinish] at houtput
    have hwallLine : (Finished.ofLines base (Script.parse source).keptLines
        surfaces).script.lines[front.length]? =
        some (numberGroups wall ++ Rule.spaceBefore back) := by
      rw [getElem?_lines_ofLines, hkept]
      simp [editLine_of_not_wholeLine hrules]
    have hfieldLine : (Finished.ofLines base (Script.parse source).keptLines
        surfaces).script.lines[(Script.parse source).keptLines.length + 5]? =
        some (surfacesLine surfaces) := by
      rw [getElem?_lines_ofLines, List.getElem?_eq_none (by omega), Nat.add_sub_cancel_left]
      rfl
    have hlist : SurfaceList.ofLine? (numberGroups wall ++ Rule.spaceBefore back) =
        some surfaces.numbered := by
      apply SurfaceList.ofLine?_append_right
      rw [SurfaceList.ofLine?_numberGroups, hsurfaces, Option.map_some]
    have hfield := SurfaceList.ofLine?_surfacesLine surfaces
    refine ⟨_, surfaces, _, _, (normalize_outcome base _).trans hfinish,
      (Except.ok.inj houtput).symm, rfl, hwallLine, hlist, hfieldLine,
      start_prefix_surfacesLine surfaces, hfield, ?_⟩
    intro hquote
    rw [hlist, hfield, SurfaceList.numbered_eq_self hquote]

/-- A wall group with the volume among its surfaces, before an element-order line. -/
def sampleTokens : Text :=
  "S(\"mg_wall\") = \x7b7, \"mg_volume\"\x7d;\nMesh.ElementOrder = 2;".toList

/-- The token is numbered in the line of the group and kept in the refinement field. -/
theorem normalizeText_wall_group_sample :
    (Script.parse sampleTokens).keptLines =
        [] ++ "S(\"mg_wall\") = \x7b7, \"mg_volume\"\x7d;".toList ::
          ["Mesh.ElementOrder = 2;".toList] ∧
      ∃ finished wallLine fieldLine,
        ((normalize "a".toList).run (Script.parse sampleTokens)).outcome = .ok finished ∧
        finished.script.lines[0]? = some wallLine ∧ finished.script.lines[7]? = some fieldLine ∧
        (SurfaceList.ofLine? wallLine).map (·.raw) = some "7, 4".toList ∧
        (SurfaceList.ofLine? fieldLine).map (·.raw) = some "7, \"mg_volume\"".toList := by
  have hkept : (Script.parse sampleTokens).keptLines =
      [] ++ "S(\"mg_wall\") = \x7b7, \"mg_volume\"\x7d;".toList ::
        ["Mesh.ElementOrder = 2;".toList] := by
    decide +kernel
  have hsurfaces : Rule.surfacesOf (Script.parse sampleTokens).keptLines =
      some ⟨"7, \"mg_volume\"".toList, by decide⟩ := by
    decide +kernel
  have hlist : SurfaceList.ofLine? "S(\"mg_wall\") = \x7b7, \"mg_volume\"\x7d;".toList =
      some ⟨"7, \"mg_volume\"".toList, by decide⟩ := by
    decide +kernel
  have hnumbered : numberGroups "7, \"mg_volume\"".toList = "7, 4".toList := by decide +kernel
  have hwall : "mg_wall".toList <:+: "S(\"mg_wall\") = \x7b7, \"mg_volume\"\x7d;".toList :=
    Text.includes_iff.1 (by decide +kernel)
  have hlast : ∀ line ∈ ["Mesh.ElementOrder = 2;".toList], ¬ "mg_wall".toList <:+: line := by
    simp only [List.forall_mem_singleton, ← Text.includes_iff]
    decide +kernel
  have hrules : ∀ rule ∈ Rule.wholeLineRules,
      ¬ rule.trigger <:+: "S(\"mg_wall\") = \x7b7, \"mg_volume\"\x7d;".toList := by
    simp only [← Text.includes_iff]
    decide +kernel
  obtain ⟨finished, surfaces, wallLine, fieldLine, hok, -, hsame, hat, hnumber, hfield, -, hkeep,
    -⟩ := normalizeText_wall_group (normalizeText_of_surfacesOf hsurfaces "a".toList) hkept hwall
      hlast hrules
  obtain rfl := Option.some.inj (hlist.symm.trans hsame)
  rw [hkept] at hfield
  refine ⟨hkept, finished, wallLine, fieldLine, hok, hat, hfield, ?_, ?_⟩
  · rw [hnumber, Option.map_some]
    exact congrArg some hnumbered
  · rw [hkeep, Option.map_some]

end MeshScript
