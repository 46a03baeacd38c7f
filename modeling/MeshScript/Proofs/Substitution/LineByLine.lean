import MeshScript.Substitution
import Mathlib.Data.List.Induction
/-!
# MeshScript.Proofs.Substitution.LineByLine -- two passes do what one line-local edit does

The stage reads all lines into a `Draft`, keyed by line index, and writes the draft back.
Here is the same edit without a draft: `Rule.editLine` is what the rules that fire on a
line make of it, and `Rule.editLines` goes down the lines and looks one line ahead for the
blank line that an element-order line asks for. `substitute_outcome` says that the two
agree, for every script and every base name.

The proof says once what scanning one line does to each part of a draft, and from that, by
induction from the last line on, what the draft of a whole script holds.
-/

namespace MeshScript

/-! ## The line-local edit -/

namespace Rule

/-- The line after the given rules, one after the other. A rule that finds nothing to
replace leaves the line as it is. -/
def applyAll (base : Text) (rules : List Rule) (line : Text) : Text :=
  rules.foldl (fun current rule => (rule.edited? current base).getD current) line

/-- **The line as the rules that fire on it leave it**, in table order. -/
def editLine (base line : Text) : Text :=
  applyAll base (firing line) line

/-- Some rule that fires on the line asks for a blank line before it. -/
def asksForSpace (line : Text) : Bool :=
  (firing line).any (·.spacesPrevious)

/-- Some rule that fires on the line takes its surface list. -/
def isWallLine (line : Text) : Bool :=
  (firing line).any (·.givesSurfaces)

/-- What stands behind a line that has `rest` behind it. -/
def spaceBefore (rest : List Text) : Text :=
  if rest.head?.any asksForSpace then ['\n'] else []

/-- **The lines as the rules leave them**, each with the space that the next one asks for. -/
def editLines (base : Text) : List Text → List Text
  | [] => []
  | line :: rest => (editLine base line ++ spaceBefore rest) :: editLines base rest

/-- The surface list of the last wall-group line. -/
def surfacesOf (lines : List Text) : Option SurfaceList :=
  (lines.filter isWallLine).getLast?.bind SurfaceList.ofLine?

theorem asksForSpace_eq (line : Text) :
    asksForSpace line = line.includes "ElementOrder".toList := by
  simp [asksForSpace, firing, List.any_filter, table, forGroup, firesOn]

theorem isWallLine_eq (line : Text) : isWallLine line = line.includes wallToken := by
  simp [isWallLine, firing, List.any_filter, table, forGroup, firesOn]

theorem getElem?_editLines (base : Text) (lines : List Text) (i : Nat) :
    (editLines base lines)[i]? =
      lines[i]?.map fun line => editLine base line ++ spaceBefore (lines.drop (i + 1)) := by
  induction lines generalizing i with
  | nil => rfl
  | cons line rest ih =>
    cases i with
    | zero => rfl
    | succ i => simpa [editLines] using ih i

theorem length_editLines (base : Text) (lines : List Text) :
    (editLines base lines).length = lines.length := by
  induction lines with
  | nil => rfl
  | cons line rest ih => rw [editLines, List.length_cons, ih, List.length_cons]

/-- What holds of all edited lines, and does not see a line feed behind a line, holds of the lines
that the rules leave. -/
theorem forall_mem_editLines {base : Text} {P : Text → Prop} {lines : List Text}
    (hedited : ∀ line ∈ lines, P (editLine base line))
    (hfeed : ∀ line, P line → P (line ++ ['\n'])) : ∀ line ∈ editLines base lines, P line := by
  induction lines with
  | nil => simp [editLines]
  | cons line rest ih =>
    have hline : P (editLine base line) := hedited line List.mem_cons_self
    have hspaced : P (editLine base line ++ spaceBefore rest) := by
      unfold spaceBefore
      split
      · exact hfeed _ hline
      · rwa [List.append_nil]
    rw [editLines, List.forall_mem_cons]
    exact ⟨hspaced, ih fun other hmem => hedited other (List.mem_cons_of_mem line hmem)⟩

end Rule

namespace Draft

/-! ## One rule on one line -/

theorem contains_spaced_spacePrevious (draft : Draft) (index : Nat) (rule : Rule) (i : Nat) :
    (draft.spacePrevious index rule).spaced.contains i =
      (draft.spaced.contains i || (rule.spacesPrevious && i + 1 == index)) := by
  unfold spacePrevious
  by_cases h : rule.spacesPrevious
  · cases index with
    | zero => simp [h, note]
    | succ previous =>
      have hkey : (compare previous i == .eq) = (i + 1 == previous + 1) := by
        rw [Bool.eq_iff_iff, beq_iff_eq, Nat.compare_eq_eq, beq_iff_eq]
        omega
      rw [if_pos h, Std.TreeSet.contains_insert, hkey, h, Bool.true_and, Bool.or_comm]
  · simp [h]

section Rules

variable (base line : Text) (index : Nat)

theorem texts_applyRule (state : Text × Draft) (rule : Rule) :
    (applyRule base index line state rule).2.texts = state.2.texts := by
  unfold applyRule takeSurfaces spacePrevious countEdit note
  grind

theorem surfaces_applyRule (state : Text × Draft) (rule : Rule) :
    (applyRule base index line state rule).2.surfaces =
      if rule.givesSurfaces then SurfaceList.ofLine? line else state.2.surfaces := by
  unfold applyRule takeSurfaces spacePrevious countEdit note
  grind

theorem contains_spaced_applyRule (state : Text × Draft) (rule : Rule) (i : Nat) :
    (applyRule base index line state rule).2.spaced.contains i =
      (state.2.spaced.contains i || (rule.spacesPrevious && i + 1 == index)) := by
  have htake : ∀ draft : Draft, (draft.takeSurfaces index line rule).spaced = draft.spaced := by
    intro draft
    unfold takeSurfaces note
    grind
  have hcount : ∀ (draft : Draft) (done : Bool),
      (draft.countEdit index rule done).spaced = draft.spaced := by
    intro draft done
    unfold countEdit note
    grind
  unfold applyRule
  rw [htake, contains_spaced_spacePrevious, hcount]

/-! ## All rules that fire on one line -/

variable (rules : List Rule) (state : Text × Draft)

theorem fst_foldl_applyRule :
    (rules.foldl (applyRule base index line) state).1 = Rule.applyAll base rules state.1 := by
  induction rules generalizing state with
  | nil => rfl
  | cons rule rules ih => exact ih _

theorem texts_foldl_applyRule :
    (rules.foldl (applyRule base index line) state).2.texts = state.2.texts := by
  induction rules generalizing state with
  | nil => rfl
  | cons rule rules ih =>
    rw [List.foldl_cons, ih, texts_applyRule]

theorem surfaces_foldl_applyRule :
    (rules.foldl (applyRule base index line) state).2.surfaces =
      if rules.any (·.givesSurfaces) then SurfaceList.ofLine? line else state.2.surfaces := by
  induction rules generalizing state with
  | nil => rfl
  | cons rule rules ih =>
    rw [List.foldl_cons, ih, surfaces_applyRule, List.any_cons]
    cases rule.givesSurfaces <;> simp

theorem contains_spaced_foldl_applyRule (i : Nat) :
    (rules.foldl (applyRule base index line) state).2.spaced.contains i =
      (state.2.spaced.contains i || (rules.any (·.spacesPrevious) && i + 1 == index)) := by
  induction rules generalizing state with
  | nil => simp
  | cons rule rules ih =>
    rw [List.foldl_cons, ih, contains_spaced_applyRule, List.any_cons]
    cases rule.spacesPrevious <;> cases rules.any (·.spacesPrevious) <;> simp

end Rules

/-! ## Scanning one line -/

section Scan

variable (base : Text) (draft : Draft) (line : Text) (index : Nat)

/-- The draft in which the rules of a line start: the warning about several rules does
not count here. -/
theorem scanLine_eq : ∃ start : Draft, start.texts = draft.texts ∧ start.spaced = draft.spaced ∧
    start.surfaces = draft.surfaces ∧ start.edits = draft.edits ∧
    draft.scanLine base (line, index) =
      let done := (Rule.firing line).foldl (applyRule base index line) (line, start)
      if done.1 = line then done.2
      else { done.2 with texts := done.2.texts.insert index done.1 } := by
  by_cases h : 1 < (Rule.firing line).length
  · refine ⟨draft.note (.severalRules (index + 1) ((Rule.firing line).map (·.name))),
      rfl, rfl, rfl, rfl, ?_⟩
    simp only [scanLine, if_pos h]
  · refine ⟨draft, rfl, rfl, rfl, rfl, ?_⟩
    simp only [scanLine, if_neg h]

theorem getElem?_texts_scanLine (i : Nat) :
    (draft.scanLine base (line, index)).texts[i]? =
      if i = index ∧ Rule.editLine base line ≠ line then some (Rule.editLine base line)
      else draft.texts[i]? := by
  obtain ⟨start, htexts, -, -, -, hscan⟩ := scanLine_eq base draft line index
  simp only [hscan, fst_foldl_applyRule, Rule.editLine]
  split
  · rename_i hsame
    simp [hsame, texts_foldl_applyRule, htexts]
  · rename_i hchanged
    simp only [Std.TreeMap.getElem?_insert, texts_foldl_applyRule, htexts,
      Nat.compare_eq_eq, ne_eq, hchanged, not_false_eq_true, and_true, eq_comm (a := i)]

theorem contains_spaced_scanLine (i : Nat) :
    (draft.scanLine base (line, index)).spaced.contains i =
      (draft.spaced.contains i || (Rule.asksForSpace line && i + 1 == index)) := by
  obtain ⟨start, -, hspaced, -, -, hscan⟩ := scanLine_eq base draft line index
  have hfold := contains_spaced_foldl_applyRule base line index (Rule.firing line) (line, start) i
  rw [hspaced] at hfold
  rw [hscan]
  simp only []
  split <;> exact hfold

theorem surfaces_scanLine :
    (draft.scanLine base (line, index)).surfaces =
      if Rule.isWallLine line then SurfaceList.ofLine? line else draft.surfaces := by
  obtain ⟨start, -, -, hsurfaces, -, hscan⟩ := scanLine_eq base draft line index
  have hfold := surfaces_foldl_applyRule base line index (Rule.firing line) (line, start)
  rw [hsurfaces] at hfold
  rw [hscan]
  simp only []
  split <;> exact hfold

end Scan

/-! ## The draft of a script -/

section Script

variable (base : Text)

theorem ofScript_concat (lines : List Text) (line : Text) :
    ofScript base ⟨lines ++ [line]⟩ =
      (ofScript base ⟨lines⟩).scanLine base (line, lines.length) := by
  simp [ofScript, List.zipIdx_append]

/-- The first pass holds the new text of the lines that change, and of no others. -/
theorem getElem?_texts_ofScript (lines : List Text) (i : Nat) :
    (ofScript base ⟨lines⟩).texts[i]? =
      lines[i]?.bind fun line =>
        if Rule.editLine base line = line then none else some (Rule.editLine base line) := by
  -- the last line is scanned last, and its index is the number of lines before it
  induction lines using List.reverseRecOn with
  | nil => simp [ofScript]
  | append_singleton lines line ih =>
    rw [ofScript_concat, getElem?_texts_scanLine, ih]
    rcases Nat.lt_trichotomy i lines.length with hlt | heq | hgt
    · rw [if_neg (by omega), List.getElem?_append_left hlt]
    · subst heq
      by_cases hsame : Rule.editLine base line = line <;> simp [hsame]
    · rw [if_neg (by omega), List.getElem?_eq_none (by omega),
        List.getElem?_eq_none (by simp; omega)]

/-- The first pass spaces the lines before an element-order line. -/
theorem contains_spaced_ofScript (lines : List Text) (i : Nat) :
    (ofScript base ⟨lines⟩).spaced.contains i = lines[i + 1]?.any Rule.asksForSpace := by
  induction lines using List.reverseRecOn with
  | nil => simp [ofScript]
  | append_singleton lines line ih =>
    rw [ofScript_concat, contains_spaced_scanLine, ih]
    rcases Nat.lt_trichotomy (i + 1) lines.length with hlt | heq | hgt
    · have hne : (i + 1 == lines.length) = false := by simp; omega
      rw [List.getElem?_append_left hlt, hne, Bool.and_false, Bool.or_false]
    · simp [heq]
    · have hne : (i + 1 == lines.length) = false := by simp; omega
      rw [List.getElem?_eq_none (by omega), List.getElem?_eq_none (by simp; omega), hne]
      simp

/-- The first pass ends with the surface list of the last wall-group line. -/
theorem surfaces_ofScript (lines : List Text) :
    (ofScript base ⟨lines⟩).surfaces = Rule.surfacesOf lines := by
  induction lines using List.reverseRecOn with
  | nil => rfl
  | append_singleton lines line ih =>
    rw [ofScript_concat, surfaces_scanLine, ih]
    by_cases h : Rule.isWallLine line <;> simp [Rule.surfacesOf, h]

/-- The second pass writes at each index what the line-local edit makes of the line. -/
theorem lines_writeInto_ofScript (lines : List Text) :
    ((ofScript base ⟨lines⟩).writeInto ⟨lines⟩).lines = Rule.editLines base lines := by
  apply List.ext_getElem?
  intro i
  rw [writeInto, List.getElem?_mapIdx, Rule.getElem?_editLines]
  apply Option.map_congr
  intro line hline
  have htext : (ofScript base ⟨lines⟩).texts.getD i line = Rule.editLine base line := by
    rw [Std.TreeMap.getD_eq_getD_getElem?, getElem?_texts_ofScript, hline]
    by_cases hsame : Rule.editLine base line = line <;> simp [hsame]
  rw [lineAt, htext, contains_spaced_ofScript, Rule.spaceBefore, List.head?_drop]

end Script

end Draft

/-- **The stage is the line-local edit**: its lines are `Rule.editLines`, its surface list
is that of the last wall-group line, whatever the base name. -/
theorem substitute_outcome (base : Text) (script : Script) :
    ((substitute base).run script).outcome =
      .ok ⟨⟨Rule.editLines base script.lines⟩, Rule.surfacesOf script.lines,
        (Draft.ofScript base script).edits⟩ := by
  have hlines := Draft.lines_writeInto_ofScript base script.lines
  have hsurfaces := Draft.surfaces_ofScript base script.lines
  unfold substitute
  simp only [Logged.succeed]
  rw [← hlines, ← hsurfaces]

end MeshScript
