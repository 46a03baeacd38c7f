import MeshScript.Proofs.Normalize.Surfaces
import MeshScript.Proofs.Substitution.LastRule
import Mathlib.Data.List.Infix
/-!
# MeshScript.Proofs.Normalize.Excluded -- no excluded directive in a normal form

Excluded lines are dropped before the others are edited, so an edit could bring an excluded
directive back: by numbering a group, by writing the base name into a statement, by putting
the surface list between braces. None of them can. A directive holds none of the characters
at which texts are put together, the dot before an extension apart, and no directive goes on
behind a dot as an extension does (`Edit.Harmless`). So a normal form is as free of excluded
directives as the base name is (`normalizeText_not_excluded`).
-/

namespace MeshScript

/-! ## Putting texts together -/

namespace Text

/-- A part of a text that holds no excluded directive holds none. -/
theorem isExcluded_of_infix {part text : Text} (hpart : part <:+: text)
    (h : text.isExcluded = false) : part.isExcluded = false := by
  rw [isExcluded_eq_false_iff] at h ⊢
  exact fun exclusion hmem hin => h exclusion hmem (hin.trans hpart)

/-- Quotes, line feeds and braces are characters of no directive. -/
theorem notMem_pattern :
    ∀ c ∈ ['"', '\n', '\x7b', '\x7d'], ∀ exclusion ∈ Exclusion.table, c ∉ exclusion.pattern := by
  have htable : ∀ exclusion ∈ Exclusion.table,
      ['"', '\n', '\x7b', '\x7d'].all (· ∉ exclusion.pattern) = true := by
    decide +kernel
  intro c hc exclusion hmem
  exact of_decide_eq_true (List.all_eq_true.1 (htable exclusion hmem) c hc)

/-- **At a character of no directive** no directive arises. -/
theorem isExcluded_append_cons {front back : Text} {c : Char} (hc : c ∈ ['"', '\n', '\x7b', '\x7d'])
    (hfront : front.isExcluded = false) (hback : back.isExcluded = false) :
    (front ++ c :: back).isExcluded = false := by
  rw [isExcluded_eq_false_iff] at hfront hback ⊢
  intro exclusion hmem hin
  rcases infix_append_cons_of_notMem (notMem_pattern c hc exclusion hmem) hin with hin | hin
  · exact hfront exclusion hmem hin
  · exact hback exclusion hmem hin

/-- Where no end of a directive starts the second text, no directive arises. -/
theorem isExcluded_append {front back : Text}
    (htails : ∀ exclusion ∈ Exclusion.table, ∀ tail ∈ exclusion.pattern.tails,
      tail <+: back → tail = [])
    (hfront : front.isExcluded = false) (hback : back.isExcluded = false) :
    (front ++ back).isExcluded = false := by
  rw [isExcluded_eq_false_iff] at hfront hback ⊢
  intro exclusion hmem hin
  rcases List.infix_append_iff.1 hin with hin | hin | ⟨head, tail, hcut, hhead, htail⟩
  · exact hfront exclusion hmem hin
  · exact hback exclusion hmem hin
  · have hnil : tail = [] :=
      htails exclusion hmem tail ((List.mem_tails _ _).2 ⟨head, hcut.symm⟩) htail
    rw [hnil, List.append_nil] at hcut
    exact hfront exclusion hmem (hcut ▸ hhead.isInfix)

/-- Lines without excluded directives are a text without any. -/
theorem isExcluded_unlines {lines : List Text}
    (h : ∀ line ∈ lines, line.isExcluded = false) : (unlines lines).isExcluded = false := by
  induction lines with
  | nil => rfl
  | cons line rest ih =>
    rw [unlines_cons]
    exact isExcluded_append_cons (by decide) (h line List.mem_cons_self)
      (ih fun other hmem => h other (List.mem_cons_of_mem line hmem))

end Text

/-! ## Edits -/

/-- **A harmless edit**: what it writes holds no excluded directive, and none can arise where
that meets the base name or the line. -/
def Edit.Harmless : Edit → Prop
  | constant text => text.isExcluded = false
  | statement keyword extension _ =>
    Text.isExcluded (keyword ++ [' ']) = false ∧ Text.isExcluded ('.' :: extension) = false ∧
      ∀ exclusion ∈ Exclusion.table, ∀ tail ∈ exclusion.pattern.tails,
        tail <+: '.' :: extension → tail = []
  | groupNumber _ number =>
    Nat.toDigits 10 number ≠ [] ∧
      ∀ exclusion ∈ Exclusion.table, ∀ digit ∈ Nat.toDigits 10 number, digit ∉ exclusion.pattern

instance : DecidablePred Edit.Harmless
  | .constant text => inferInstanceAs (Decidable (text.isExcluded = false))
  | .statement keyword extension _ =>
    inferInstanceAs (Decidable (Text.isExcluded (keyword ++ [' ']) = false ∧
      Text.isExcluded ('.' :: extension) = false ∧
      ∀ exclusion ∈ Exclusion.table, ∀ tail ∈ exclusion.pattern.tails,
        tail <+: '.' :: extension → tail = []))
  | .groupNumber _ number =>
    -- the digits of the number are gone through, not all characters
    have (exclusion : Exclusion) : Decidable (∀ digit ∈ Nat.toDigits 10 number,
        digit ∉ exclusion.pattern) := List.decidableBAll _ _
    inferInstanceAs (Decidable (Nat.toDigits 10 number ≠ [] ∧
      ∀ exclusion ∈ Exclusion.table, ∀ digit ∈ Nat.toDigits 10 number,
        digit ∉ exclusion.pattern))

theorem Rule.harmless_of_mem_table : ∀ rule ∈ Rule.table, rule.edit.Harmless := by
  decide +kernel

namespace Edit

/-- **A harmless edit brings no excluded directive**, if neither the line nor the base name
has one. -/
theorem Harmless.isExcluded_edited? {edit : Edit} (h : edit.Harmless) {current base new : Text}
    (hcurrent : current.isExcluded = false) (hbase : base.isExcluded = false)
    (hnew : edit.edited? current base = some new) : new.isExcluded = false := by
  cases edit with
  | constant text =>
    obtain rfl := Option.some.inj hnew
    exact h
  | statement keyword extension blankAfter =>
    obtain ⟨hkeyword, hextension, htails⟩ := h
    have hend : Text.isExcluded (';' :: if blankAfter then ['\n'] else []) = false := by
      cases blankAfter <;> decide
    have hname : Text.isExcluded (base ++ '.' :: extension) = false :=
      Text.isExcluded_append htails hbase hextension
    obtain rfl := Option.some.inj hnew
    -- the file name stands between two quotes
    have hquotes := Text.isExcluded_append_cons (c := '"') (by decide) hkeyword
      (Text.isExcluded_append_cons (c := '"') (by decide) hname hend)
    simpa using hquotes
  | groupNumber token number =>
    obtain ⟨hdigits, hdisjoint⟩ := h
    have hne : quote token ≠ [] := by simp [quote]
    obtain ⟨-, hnew⟩ := Option.ite_none_right_eq_some.1 hnew
    obtain rfl := Option.some.inj hnew
    rw [Text.isExcluded_eq_false_iff] at hcurrent ⊢
    intro exclusion hmem hin
    exact hcurrent exclusion hmem
      (Text.infix_of_infix_replaceAll hne hdigits (hdisjoint exclusion hmem) hin)

end Edit

namespace Rule

theorem isExcluded_applyAll {rules : List Rule} (hrules : rules ⊆ table) {base line : Text}
    (hbase : base.isExcluded = false) (hline : line.isExcluded = false) :
    (applyAll base rules line).isExcluded = false := by
  induction rules generalizing line with
  | nil => exact hline
  | cons rule rules ih =>
    have hrule : rule ∈ table := hrules List.mem_cons_self
    have hstep : Text.isExcluded ((rule.edited? line base).getD line) = false := by
      cases hnew : rule.edited? line base with
      | none => exact hline
      | some new => exact (harmless_of_mem_table rule hrule).isExcluded_edited? hline hbase hnew
    exact ih (fun other hmem => hrules (List.mem_cons_of_mem rule hmem)) hstep

/-- **The edited lines** hold no excluded directive, if the lines and the base name do not. -/
theorem isExcluded_of_mem_editLines {base : Text} (hbase : base.isExcluded = false)
    {lines : List Text} (hlines : ∀ line ∈ lines, line.isExcluded = false) :
    ∀ line ∈ editLines base lines, line.isExcluded = false := by
  apply forall_mem_editLines
  · intro line hmem
    exact isExcluded_applyAll (List.filter_subset_self table) hbase (hlines line hmem)
  · intro line hline
    exact Text.isExcluded_append_cons (by decide) hline rfl

end Rule

/-! ## The refinement block -/

/-- The block holds no excluded directive, if the surface list does not. -/
theorem isExcluded_of_mem_refinementBlock {surfaces : SurfaceList}
    (h : surfaces.raw.isExcluded = false) :
    ∀ line ∈ refinementBlock surfaces, line.isExcluded = false := by
  have hlist : (surfacesLine surfaces).isExcluded = false := by
    rw [surfacesLine_eq]
    exact Text.isExcluded_append_cons (by decide) (by decide)
      (Text.isExcluded_append_cons (by decide) h (by decide))
  simp only [refinementBlock, List.forall_mem_cons, hlist, true_and]
  decide +kernel

/-- The surfaces come from a kept line. -/
theorem isExcluded_surfacesOf {source : Text} {surfaces : SurfaceList}
    (h : Rule.surfacesOf (Script.parse source).keptLines = some surfaces) :
    surfaces.raw.isExcluded = false := by
  obtain ⟨line, hmem, hpart⟩ := raw_infix_of_surfacesOf h
  exact Text.isExcluded_of_infix hpart (Script.mem_keptLines.1 hmem).2.2

/-! ## The normal form -/

/-- **No excluded directive comes back.** For a base name without any, a normal form holds
none in any place; so none of its lines would be dropped if it was cleaned again. -/
theorem normalizeText_not_excluded {source base output : Text}
    (hbase : ∀ exclusion ∈ Exclusion.table, ¬ exclusion.pattern <:+: base)
    (h : normalizeText source base = .ok output) :
    (∀ exclusion ∈ Exclusion.table, ¬ exclusion.pattern <:+: output) ∧
      (dropExcluded.run (Script.parse output)).outcome = .ok (Script.parse output) := by
  have hkept : ∀ line ∈ (Script.parse source).keptLines, line.isExcluded = false :=
    fun line hmem => (Script.mem_keptLines.1 hmem).2.2
  have houtput : output.isExcluded = false := by
    cases hsurfaces : Rule.surfacesOf (Script.parse source).keptLines with
    | none => cases (normalizeText_of_surfacesOf_eq_none hsurfaces base).symm.trans h
    | some surfaces =>
      obtain rfl := Except.ok.inj ((normalizeText_of_surfacesOf hsurfaces base).symm.trans h)
      refine Text.isExcluded_unlines (List.forall_mem_append.2 ⟨?_, ?_⟩)
      · exact Rule.isExcluded_of_mem_editLines (Text.isExcluded_eq_false_iff.2 hbase) hkept
      · exact isExcluded_of_mem_refinementBlock (isExcluded_surfacesOf hsurfaces)
  have hlines : ∀ line ∈ (Script.parse output).lines, line.isExcluded = false :=
    fun line hmem => Text.isExcluded_of_infix (Text.infix_of_mem_lines hmem) houtput
  refine ⟨Text.isExcluded_eq_false_iff.1 houtput, ?_⟩
  rw [dropExcluded_outcome, Script.filter, List.filter_eq_self.2 (by simpa using hlines)]

/-- A statement that names a wall group, and a comment. -/
def sampleSave : Text :=
  "Save mg_wall \x7b7\x7d;\n// x".toList

/-- A base name that comes close: a slash behind a quote, and `Mesh` before a dot. -/
theorem normalizeText_not_excluded_sample :
    (∀ exclusion ∈ Exclusion.table, ¬ exclusion.pattern <:+: "/Mesh".toList) ∧
      ∃ output, normalizeText sampleSave "/Mesh".toList = .ok output ∧
        "Save \"/Mesh.msh\";\n".toList <+: output ∧
        ∀ exclusion ∈ Exclusion.table, ¬ exclusion.pattern <:+: output := by
  have hbase : ∀ exclusion ∈ Exclusion.table, ¬ exclusion.pattern <:+: "/Mesh".toList :=
    Text.isExcluded_eq_false_iff.1 (by decide +kernel)
  have hsurfaces : Rule.surfacesOf (Script.parse sampleSave).keptLines =
      some ⟨"7".toList, by decide⟩ := by
    decide +kernel
  have hedited : Rule.editLines "/Mesh".toList (Script.parse sampleSave).keptLines =
      ["Save \"/Mesh.msh\";".toList] := by
    decide +kernel
  have houtput := normalizeText_of_surfacesOf hsurfaces "/Mesh".toList
  refine ⟨hbase, _, houtput, ?_, (normalizeText_not_excluded hbase houtput).1⟩
  rw [hedited, Text.unlines_append]
  exact List.prefix_append _ _

end MeshScript
