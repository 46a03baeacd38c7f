import MeshScript.Proofs.Substitution.LastRule
import MeshScript.Proofs.Tally
import Mathlib.Data.List.Nodup
/-!
# MeshScript.Proofs.Substitution.Edits -- which rules edit a line, and how often

A rule that fires need not edit: a group rule leaves a line alone in which its token is not quoted
any more. `Rule.editing` lists the rules that do, each asked at its turn, and the tally of a
script counts just these, over all lines (`edits_ofScript`). So each rule counts the lines that
it edits (`count_edits`), and a whole-line rule all lines on which it fires.

`effective_congr` compares two lines: rules edit them alike as long as every rule keeps a relation
between them that leaves it no choice. The base name and a carriage return at the end of a line
are shown that way to have no influence on the counts.
-/

namespace MeshScript

namespace Rule

/-! ## The rules that edit -/

/-- The given rules that edit the line, each asked about what the ones before it have left. -/
def effective (base : Text) : List Rule → Text → List Rule
  | [], _ => []
  | rule :: rules, current =>
    match rule.edited? current base with
    | some next => rule :: effective base rules next
    | none => effective base rules current

/-- **The rules that edit a line**, of those that fire on it. -/
def editing (base line : Text) : List Rule :=
  effective base (firing line) line

theorem effective_cons (base : Text) (rule : Rule) (rules : List Rule) (current : Text) :
    effective base (rule :: rules) current =
      (if (rule.edited? current base).isSome then [rule] else []) ++
        effective base rules ((rule.edited? current base).getD current) := by
  rw [effective]
  cases rule.edited? current base <;> rfl

theorem effective_sublist (base : Text) (rules : List Rule) (current : Text) :
    (effective base rules current).Sublist rules := by
  induction rules generalizing current with
  | nil => exact List.Sublist.slnil
  | cons rule rules ih =>
    rw [effective_cons]
    split
    · exact (ih _).cons_cons rule
    · exact (ih _).cons rule

theorem editing_sublist (base line : Text) : (editing base line).Sublist table :=
  (effective_sublist base _ line).trans List.filter_sublist

/-- No two rules of the table have the same name. -/
theorem nodup_names : (table.map (·.name)).Nodup := by
  decide

theorem nodup_table : table.Nodup :=
  nodup_names.of_map _

/-- In the table a name is that of one rule. -/
theorem name_mem_map_iff {rules : List Rule} (hrules : rules ⊆ table) {rule : Rule}
    (h : rule ∈ table) : rule.name ∈ rules.map (·.name) ↔ rule ∈ rules := by
  refine ⟨fun hname => ?_, fun hrule => List.mem_map_of_mem hrule⟩
  obtain ⟨other, hother, hname⟩ := List.mem_map.1 hname
  rwa [← List.inj_on_of_nodup_map nodup_names (hrules hother) h hname]

/-- A whole-line rule edits whatever it is given. -/
theorem mem_effective_of_replacesLine {rule : Rule} (h : rule.replacesLine) {base : Text}
    {rules : List Rule} {current : Text} :
    rule ∈ effective base rules current ↔ rule ∈ rules := by
  refine ⟨fun hmem => (effective_sublist base rules current).subset hmem, ?_⟩
  induction rules generalizing current with
  | nil => exact fun hmem => hmem
  | cons other rules ih =>
    intro hmem
    rw [effective_cons, List.mem_append]
    rcases List.mem_cons.1 hmem with rfl | hmem
    · simp [edited?_of_replacesLine h]
    · exact Or.inr (ih hmem)

theorem mem_editing_of_replacesLine {rule : Rule} (htable : rule ∈ table) (h : rule.replacesLine)
    {base line : Text} : rule ∈ editing base line ↔ rule.firesOn line = true := by
  rw [editing, mem_effective_of_replacesLine h, firing, List.mem_filter, and_iff_right htable]

/-! ## Two lines edited alike -/

/-- A group rule edits a line exactly if its quoted token is there. -/
theorem isSome_edited?_groupRule {rule : Rule} (h : rule ∈ groupRules) (current base : Text) :
    (rule.edited? current base).isSome = current.includes rule.quoted := by
  obtain ⟨number, hnumber⟩ := exists_edit_eq_groupNumber h
  rw [edited?, hnumber, Edit.edited?, quoted]
  cases current.includes (Edit.quote rule.trigger) <;> rfl

/-- A rule of the table writes a whole line or numbers a group. -/
theorem mem_wholeLineRules_or {rule : Rule} (h : rule ∈ table) :
    rule ∈ wholeLineRules ∨ rule ∈ groupRules := by
  rwa [table_eq_append, List.mem_append] at h

/-- **Rules that edit alike.** If whole-line rules write related lines, and if of two related lines
every group rule finds its token in both or in neither and leaves related lines, then the same rules
edit both. -/
theorem effective_congr {base base' : Text} {R : Text → Text → Prop}
    (hwhole : ∀ rule ∈ wholeLineRules, R (rule.replacement base) (rule.replacement base'))
    (hgroup : ∀ rule ∈ groupRules, ∀ current current', R current current' →
      current.includes rule.quoted = current'.includes rule.quoted ∧
        R (current.replaceAll rule.quoted rule.digits)
          (current'.replaceAll rule.quoted rule.digits))
    {rules : List Rule} (hrules : rules ⊆ table) {current current' : Text}
    (h : R current current') :
    effective base rules current = effective base' rules current' := by
  induction rules generalizing current current' with
  | nil => rfl
  | cons rule rules ih =>
    have ih := @ih fun other hmem => hrules (List.mem_cons_of_mem rule hmem)
    rw [effective_cons, effective_cons]
    rcases mem_wholeLineRules_or (hrules List.mem_cons_self) with hrule | hrule
    · have hreplaces := replacesLine_of_mem hrule
      rw [edited?_of_replacesLine hreplaces, edited?_of_replacesLine hreplaces, Option.getD_some,
        Option.getD_some, ih (hwhole rule hrule)]
      rfl
    · obtain ⟨hsome, hnext⟩ := hgroup rule hrule current current' h
      rw [isSome_edited?_groupRule hrule, isSome_edited?_groupRule hrule,
        getD_edited?_groupRule hrule, getD_edited?_groupRule hrule, hsome, ih hnext]

/-- **The base name has no say** in which rules edit a line, if it holds no quote. -/
theorem editing_base {base base' : Text} (hbase : '"' ∉ base) (hbase' : '"' ∉ base')
    (line : Text) : editing base line = editing base' line := by
  -- the line is the same in both, or the base name is in it and no token is left
  refine effective_congr (R := fun current current' => current = current' ∨
      ∀ group ∈ groupRules, ¬ group.quoted <:+: current ∧ ¬ group.quoted <:+: current')
    ?_ ?_ (List.filter_subset_self _) (Or.inl rfl)
  · intro rule hrule
    refine Or.inr fun group hgroup => ⟨?_, ?_⟩
    · exact not_quoted_infix_replacement hrule hgroup hbase
    · exact not_quoted_infix_replacement hrule hgroup hbase'
  · intro rule hrule current current' hrelated
    rcases hrelated with rfl | hnone
    · exact ⟨rfl, Or.inl rfl⟩
    · obtain ⟨habsent, habsent'⟩ := hnone rule hrule
      rw [Text.replaceAll_eq_self habsent, Text.replaceAll_eq_self habsent',
        Bool.eq_iff_iff, Text.includes_iff, Text.includes_iff]
      exact ⟨iff_of_false habsent habsent', Or.inr hnone⟩

end Rule

/-! ## The tally of a script -/

namespace Draft

section Line

variable (base line : Text) (index : Nat)

theorem edits_applyRule (state : Text × Draft) (rule : Rule) :
    (applyRule base index line state rule).2.edits =
      if (rule.edited? state.1 base).isSome then state.2.edits.increment rule.name
      else state.2.edits := by
  unfold applyRule takeSurfaces spacePrevious countEdit note
  grind

theorem edits_foldl_applyRule (rules : List Rule) (state : Text × Draft) :
    (rules.foldl (applyRule base index line) state).2.edits =
      ((Rule.effective base rules state.1).map (·.name)).foldl Tally.increment state.2.edits := by
  induction rules generalizing state with
  | nil => rfl
  | cons rule rules ih =>
    rw [List.foldl_cons, ih, edits_applyRule, Rule.effective_cons, List.map_append,
      List.foldl_append]
    split <;> rfl

theorem edits_scanLine (draft : Draft) :
    (draft.scanLine base (line, index)).edits =
      ((Rule.editing base line).map (·.name)).foldl Tally.increment draft.edits := by
  obtain ⟨start, -, -, -, hedits, hscan⟩ := scanLine_eq base draft line index
  have hfold := edits_foldl_applyRule base line index (Rule.firing line) (line, start)
  rw [hedits] at hfold
  rw [hscan]
  simp only []
  split <;> exact hfold

end Line

/-- **The tally of a script** counts the rules that edit its lines. -/
theorem edits_ofScript (base : Text) (lines : List Text) :
    (ofScript base ⟨lines⟩).edits =
      Tally.ofNames (lines.flatMap fun line => (Rule.editing base line).map (·.name)) := by
  induction lines using List.reverseRecOn with
  | nil => rfl
  | append_singleton lines line ih =>
    rw [ofScript_concat, edits_scanLine, ih, Tally.foldl_increment_ofNames]
    simp

/-- **A rule counts the lines that it edits.** -/
theorem count_edits {rule : Rule} (h : rule ∈ Rule.table) (base : Text) (lines : List Text) :
    (ofScript base ⟨lines⟩).edits.count rule.name =
      lines.countP fun line => decide (rule ∈ Rule.editing base line) := by
  have hline : ∀ line, ((Rule.editing base line).map (·.name)).count rule.name =
      if rule ∈ Rule.editing base line then 1 else 0 := by
    intro line
    have hsublist := Rule.editing_sublist base line
    have hnodup : ((Rule.editing base line).map (·.name)).Nodup :=
      Rule.nodup_names.sublist (hsublist.map _)
    rw [hnodup.count]
    simp only [Rule.name_mem_map_iff hsublist.subset h]
  rw [edits_ofScript, Tally.count_ofNames]
  induction lines with
  | nil => rfl
  | cons line lines ih =>
    rw [List.flatMap_cons, List.count_append, ih, hline, List.countP_cons]
    simp only [decide_eq_true_eq, Nat.add_comm]

/-- A whole-line rule counts the lines on which it fires. -/
theorem count_edits_of_replacesLine {rule : Rule} (h : rule ∈ Rule.wholeLineRules) (base : Text)
    (lines : List Text) :
    (ofScript base ⟨lines⟩).edits.count rule.name = lines.countP rule.firesOn := by
  have htable : rule ∈ Rule.table := List.mem_of_mem_filter h
  rw [count_edits htable]
  refine List.countP_congr fun line _ => ?_
  rw [decide_eq_true_eq, Rule.mem_editing_of_replacesLine htable (Rule.replacesLine_of_mem h)]

/-- **The tally does not see the base name**, if that holds no quote. -/
theorem edits_base {base base' : Text} (hbase : '"' ∉ base) (hbase' : '"' ∉ base')
    (lines : List Text) :
    (ofScript base ⟨lines⟩).edits = (ofScript base' ⟨lines⟩).edits := by
  rw [edits_ofScript, edits_ofScript, funext (Rule.editing_base hbase hbase')]

end Draft

/-- **The stage on a script of one line.** -/
theorem substitute_singleton (base line : Text) :
    ((substitute base).run ⟨[line]⟩).outcome =
      .ok ⟨⟨[Rule.editLine base line]⟩, Rule.surfacesOf [line],
        Tally.ofNames ((Rule.editing base line).map (·.name))⟩ := by
  have hlines : Rule.editLines base [line] = [Rule.editLine base line] :=
    congrArg (fun edited => [edited]) (List.append_nil _)
  rw [substitute_outcome, Draft.edits_ofScript, hlines, List.flatMap_singleton]

end MeshScript
