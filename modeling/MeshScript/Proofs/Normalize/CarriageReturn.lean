import MeshScript.Proofs.Normalize.Outcome
import MeshScript.Proofs.Substitution.Edits
import MeshScript.Proofs.SurfaceList
/-!
# MeshScript.Proofs.Normalize.CarriageReturn -- normalizing a text that was written out once

A run does not normalize the exported text but `Text.withoutBlanks` of it, read a second
time. A kept line that still ends in a carriage return comes back without it. Here is what
that changes: not which lines are kept, not which rules fire or edit, not the surface list and not
whether there is an output (`normalizeText_withoutBlanks_eq_error_iff`); only the carriage
returns of the lines that no whole-line rule overwrites are missing from the output
(`normalizeText_withoutBlanks_eq_ok_iff`).
-/

namespace MeshScript

/-- **The text without its blank lines**, every other line ended by a line feed. -/
def Text.withoutBlanks (source : Text) : Text :=
  unlines (source.lines.filter (!·.isBlank))

theorem Text.lines_withoutBlanks (source : Text) :
    source.withoutBlanks.lines = (source.lines.filter (!·.isBlank)).map dropReturn := by
  apply lines_unlines
  intro line hmem
  exact notMem_of_mem_lines (List.mem_of_mem_filter hmem)

/-- The lines kept from the text that was written out are those of the text itself, with one
carriage return less. -/
theorem keptLines_withoutBlanks (source : Text) :
    (Script.parse source.withoutBlanks).keptLines =
      (Script.parse source).keptLines.map Text.dropReturn := by
  have hblank : (fun line : Text => !line.isBlank) ∘ Text.dropReturn = (!·.isBlank) :=
    funext fun line => congrArg _ (Text.isBlank_dropReturn line)
  have hexcluded : (fun line : Text => !line.isExcluded) ∘ Text.dropReturn = (!·.isExcluded) :=
    funext fun line => congrArg _ (Text.isExcluded_dropReturn line)
  -- no blank line is left to be dropped a second time
  have htwice : (source.lines.filter (!·.isBlank)).filter (!·.isBlank) =
      source.lines.filter (!·.isBlank) := by
    simp [List.filter_filter]
  rw [Script.keptLines, Script.keptLines, Script.parse, Script.parse, Text.lines_withoutBlanks,
    List.filter_map, hblank, htwice, List.filter_map, hexcluded]

namespace Rule

/-! ## What the rules see of a carriage return -/

theorem firesOn_dropReturn {rule : Rule} (h : rule ∈ table) (line : Text) :
    rule.firesOn line.dropReturn = rule.firesOn line := by
  have htrigger : ∀ rule ∈ table, '\r' ∉ rule.trigger := by decide
  exact Text.includes_dropReturn (htrigger rule h) line

theorem firing_dropReturn (line : Text) : firing line.dropReturn = firing line :=
  List.filter_congr fun _ hmem => firesOn_dropReturn hmem line

theorem surfacesOf_map_dropReturn (lines : List Text) :
    surfacesOf (lines.map Text.dropReturn) = surfacesOf lines := by
  have hwall : isWallLine ∘ Text.dropReturn = isWallLine := by
    funext line
    simp only [Function.comp_apply, isWallLine, firing_dropReturn]
  have hlist : SurfaceList.ofLine? ∘ Text.dropReturn = SurfaceList.ofLine? :=
    funext SurfaceList.ofLine?_dropReturn
  rw [surfacesOf, surfacesOf, List.filter_map, hwall, List.getLast?_map, Option.bind_map, hlist]

theorem spaceBefore_map_dropReturn (rest : List Text) :
    spaceBefore (rest.map Text.dropReturn) = spaceBefore rest := by
  have hspace : (fun line => asksForSpace line.dropReturn) = asksForSpace := by
    funext line
    rw [asksForSpace, firing_dropReturn, asksForSpace]
  rw [spaceBefore, spaceBefore, List.head?_map, Option.any_map, hspace]

/-- **The rules that edit a line** edit it without its carriage return as well, and no others. -/
theorem editing_dropReturn (base line : Text) :
    editing base line.dropReturn = editing base line := by
  have hreturn : Neutral '\r' := neutral_of_mem _ (by decide)
  rw [editing, editing, firing_dropReturn]
  -- a carriage return at the end stays there until a whole line is written
  refine effective_congr (R := fun current current' =>
      current' = current ∨ current' = current ++ ['\r'])
    (fun rule _ => Or.inl rfl) ?_ (List.filter_subset_self _) (Text.eq_dropReturn_or line)
  intro rule hrule current current' hrelated
  obtain ⟨hquoted, -⟩ := hreturn rule hrule
  rcases hrelated with rfl | rfl
  · exact ⟨rfl, Or.inl rfl⟩
  · rw [Text.includes_concat hquoted, Text.replaceAll_append_cons hquoted, Text.replaceAll_nil]
    exact ⟨rfl, Or.inr rfl⟩

/-- So the tally does not see carriage returns. -/
theorem edits_map_dropReturn (base : Text) (lines : List Text) :
    (Draft.ofScript base ⟨lines.map Text.dropReturn⟩).edits =
      (Draft.ofScript base ⟨lines⟩).edits := by
  rw [Draft.edits_ofScript, Draft.edits_ofScript, List.flatMap_map]
  simp only [editing_dropReturn]

/-! ## Which lines lose one -/

/-- Some rule that replaces the whole line fires on it. -/
def isReplaced (line : Text) : Bool :=
  wholeLineRules.any (·.firesOn line)

theorem isReplaced_eq (line : Text) : isReplaced line = (firing line).any replacesLine := by
  rw [isReplaced, wholeLineRules, firing, List.any_filter, List.any_filter]
  exact List.any_congr rfl fun rule => Bool.and_comm ..

/-- **A replaced line** does not depend on the carriage return at its end. -/
theorem editLine_dropReturn_of_isReplaced {line : Text} (h : isReplaced line) (base : Text) :
    editLine base line.dropReturn = editLine base line := by
  rw [editLine, editLine, firing_dropReturn]
  exact applyAll_congr_of_any_replacesLine (isReplaced_eq line ▸ h) base _ _

/-- Group rules leave a carriage return at the end where it is. -/
theorem applyAll_concat {rules : List Rule} (hrules : rules ⊆ groupRules) (base line : Text) :
    applyAll base rules (line ++ ['\r']) = applyAll base rules line ++ ['\r'] := by
  have hnil : applyAll base rules [] = [] :=
    applyAll_eq_self hrules (fun rule _ => by simp [quoted, Edit.quote]) base
  rw [applyAll_append_cons hrules (neutral_of_mem _ (by decide)), hnil]

/-- **A line that is not replaced** keeps the carriage return at its end. -/
theorem editLine_of_not_isReplaced {line : Text} (h : isReplaced line = false)
    (hreturn : line.EndsInReturn) (base : Text) :
    editLine base line = editLine base line.dropReturn ++ ['\r'] := by
  have hgroup : firing line ⊆ groupRules := by
    intro rule hmem
    have hnone := List.any_eq_false.1 (isReplaced_eq line ▸ h) rule hmem
    exact List.mem_filter.2 ⟨List.mem_of_mem_filter hmem, by simpa using hnone⟩
  rw [editLine, editLine, firing_dropReturn, ← applyAll_concat hgroup,
    ← Text.eq_dropReturn_append hreturn]

/-- The line ends in a carriage return and keeps it. -/
def keepsReturn (line : Text) : Bool :=
  decide line.EndsInReturn && !isReplaced line

theorem editLine_eq (base line : Text) :
    editLine base line =
      editLine base line.dropReturn ++ if keepsReturn line then ['\r'] else [] := by
  by_cases hreturn : line.EndsInReturn
  · cases hreplaced : isReplaced line with
    | true =>
      have hkeeps : keepsReturn line = false := by simp [keepsReturn, hreplaced]
      rw [hkeeps, editLine_dropReturn_of_isReplaced hreplaced]
      simp
    | false =>
      have hkeeps : keepsReturn line = true := by simp [keepsReturn, hreplaced, hreturn]
      rw [hkeeps, editLine_of_not_isReplaced hreplaced hreturn]
      rfl
  · have hkeeps : keepsReturn line = false := by simp [keepsReturn, hreturn]
    rw [hkeeps, Text.dropReturn_eq_self hreturn]
    simp

/-- The edited text is longer than that of the lines without their carriage returns by those
that are kept. -/
theorem length_unlines_editLines (base : Text) (lines : List Text) :
    (Text.unlines (editLines base lines)).length =
      (Text.unlines (editLines base (lines.map Text.dropReturn))).length +
        lines.countP keepsReturn := by
  induction lines with
  | nil => rfl
  | cons line rest ih =>
    rw [List.map_cons, editLines, editLines, Text.unlines_cons, Text.unlines_cons,
      spaceBefore_map_dropReturn, editLine_eq base line, List.countP_cons]
    simp only [List.length_append, List.length_cons, ih]
    cases keepsReturn line <;> simp <;> omega

theorem editLines_map_dropReturn {lines : List Text} (h : ∀ line ∈ lines, keepsReturn line = false)
    (base : Text) : editLines base (lines.map Text.dropReturn) = editLines base lines := by
  induction lines with
  | nil => rfl
  | cons line rest ih =>
    have hline : keepsReturn line = false := h line List.mem_cons_self
    rw [List.map_cons, editLines, editLines, spaceBefore_map_dropReturn, editLine_eq base line,
      hline, ih fun other hmem => h other (List.mem_cons_of_mem line hmem)]
    simp

end Rule

/-! ## What a second reading changes -/

/-- **The second reading changes no failure.** -/
theorem normalizeText_withoutBlanks_eq_error_iff (source base : Text) (e : StageError) :
    normalizeText source.withoutBlanks base = .error e ↔ normalizeText source base = .error e := by
  rw [normalizeText_eq, normalizeText_eq, keptLines_withoutBlanks, finish, finish,
    Rule.surfacesOf_map_dropReturn]
  cases Rule.surfacesOf (Script.parse source).keptLines <;> simp [Except.map]

/-- **The second reading changes no output** exactly when every kept line that ends in a
carriage return is replaced as a whole. -/
theorem normalizeText_withoutBlanks_eq_ok_iff {source base text : Text}
    (h : normalizeText source base = .ok text) :
    normalizeText source.withoutBlanks base = .ok text ↔
      ∀ line ∈ (Script.parse source).keptLines, line.EndsInReturn → Rule.isReplaced line := by
  have hkeeps : (∀ line ∈ (Script.parse source).keptLines, Rule.keepsReturn line = false) ↔
      ∀ line ∈ (Script.parse source).keptLines, line.EndsInReturn → Rule.isReplaced line := by
    simp [Rule.keepsReturn]
  rw [normalizeText_eq, finish] at h
  rw [← hkeeps, normalizeText_eq, keptLines_withoutBlanks, finish, Rule.surfacesOf_map_dropReturn]
  cases hsurfaces : Rule.surfacesOf (Script.parse source).keptLines with
  | none => simp [hsurfaces, Except.map] at h
  | some surfaces =>
    simp only [hsurfaces, Except.map, Except.ok.injEq, render_ofLines] at h ⊢
    rw [← h, List.append_left_inj]
    constructor
    · intro heq
      -- every carriage return that is kept makes the text longer by one
      have hlength := Rule.length_unlines_editLines base (Script.parse source).keptLines
      have hcount : (Script.parse source).keptLines.countP Rule.keepsReturn = 0 := by
        rw [heq] at hlength
        omega
      simpa using List.countP_eq_zero.1 hcount
    · intro hnone
      rw [Rule.editLines_map_dropReturn hnone]

end MeshScript
