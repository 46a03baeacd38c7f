import MeshScript.Proofs.Substitution.Turns
/-!
# MeshScript.Proofs.Substitution.Log -- what the stage tells about itself

The first pass adds an event wherever something happens, in between the edits, the counts and the
surface list, and the events of a line depend on the lines before it. `lineLog` is the log of one
line written out: it starts with a warning if two rules or more fire on the line, and then each of
those rules reports its turn (`turnLog`). Of the lines before only two things enter, their number
and whether a wall-group line is among them.

`log_ofScript` says that the log of a script is that of its lines, one behind the other. The
records account for the result: the tally is that of the rules which the records of an edit name
(`edits_eq_ofNames_log`), and all wall-group lines but the first are warned of
(`repeats_log_ofScript`).
-/

namespace MeshScript

/-! ## The log, written out -/

/-- The message of a record; a span has none. -/
def Record.message? : Record → Option String
  | .span _ _ => none
  | .entry _ message _ => some message

/-- The rule that a record names, if it names one. -/
def Record.rule? : Record → Option Text
  | .span _ fields | .entry _ _ fields =>
    match fields.lookup "rule" with
    | some (.text name) => some name
    | _ => none

/-- The rule edits the line with that number, counted from one, or its token is not quoted there. -/
def editLog (number : Nat) (edits : Bool) (rule : Rule) : List Record :=
  [.entry .debug
    (if edits then "rewrote line"
      else "trigger present without quoted placeholder, line left unchanged")
    [("line", .count number), ("rule", .text rule.name)]]

/-- The rule for element order asks for space that the first line has no place for. -/
def spaceLog (number : Nat) (rule : Rule) : List Record :=
  if rule.name = "element-order".toList ∧ number = 1 then
    [.entry .debug "no previous line to pad" [("rule", .text rule.name)]]
  else []

/-- The rule for the wall group finds that a line before was one of its lines. -/
def repeatLog (number : Nat) (repeated : Bool) (rule : Rule) : List Record :=
  if rule.name = "wall-group".toList ∧ repeated then
    [.entry .warn "repeated wall-group line, its surface list replaces the earlier one"
      [("line", .count number)]]
  else []

/-- **The report of a rule at its turn.** -/
def turnLog (number : Nat) (edits repeated : Bool) (rule : Rule) : List Record :=
  editLog number edits rule ++ spaceLog number rule ++ repeatLog number repeated rule

/-- The report of the rules that fire on a line, if there are two or more. -/
def severalLog (number : Nat) (rules : List Rule) : List Record :=
  if 2 ≤ rules.length then
    [.entry .warn "line matches several substitution rules"
      [("line", .count number), ("rules", .text (Event.quotedNames (rules.map (·.name))))]]
  else []

/-- **The log of a line** that has the lines `before` in front of it. -/
def lineLog (base : Text) (before : List Text) (line : Text) : List Record :=
  severalLog (before.length + 1) (Rule.firing line) ++
    (Rule.firing line).flatMap fun rule =>
      turnLog (before.length + 1) (rule.editsAtTurn base line)
        (before.any (·.includes "mg_wall".toList)) rule

namespace Draft

/-- The log of a draft, first record first. -/
def log (draft : Draft) : List Record :=
  draft.trail.reverse.map Event.record

/-! ## One rule on one line -/

theorem log_note (draft : Draft) (event : Event) :
    (draft.note event).log = draft.log ++ [event.record] := by
  simp [log, note]

theorem log_countEdit (draft : Draft) (index : Nat) (rule : Rule) (done : Bool) :
    (draft.countEdit index rule done).log = draft.log ++ editLog (index + 1) done rule := by
  cases done with
  | true => exact log_note draft (.lineEdited (index + 1) rule.name)
  | false => exact log_note draft (.tokenNotQuoted (index + 1) rule.name)

/-- Only element order asks for space, and only the wall group gives surfaces. -/
theorem flags_of_mem {rule : Rule} (h : rule ∈ Rule.table) :
    (rule.spacesPrevious = true ↔ rule.name = "element-order".toList) ∧
      (rule.givesSurfaces = true ↔ rule.name = "wall-group".toList) := by
  have hall : ∀ rule ∈ Rule.table,
      (rule.spacesPrevious = true ↔ rule.name = "element-order".toList) ∧
        (rule.givesSurfaces = true ↔ rule.name = "wall-group".toList) := by
    decide
  exact hall rule h

theorem log_spacePrevious (draft : Draft) (index : Nat) {rule : Rule} (h : rule ∈ Rule.table) :
    (draft.spacePrevious index rule).log = draft.log ++ spaceLog (index + 1) rule := by
  have hspaces := (flags_of_mem h).1
  unfold spacePrevious spaceLog
  by_cases hrule : rule.spacesPrevious = true
  · rw [if_pos hrule]
    cases index with
    | zero =>
      rw [if_pos ⟨hspaces.1 hrule, rfl⟩]
      exact log_note draft (.nothingToPad rule.name)
    | succ previous =>
      rw [if_neg (by omega), List.append_nil]
      rfl
  · rw [if_neg hrule, if_neg fun hboth => hrule (hspaces.2 hboth.1), List.append_nil]

theorem log_takeSurfaces (draft : Draft) (index : Nat) (line : Text) {rule : Rule}
    (h : rule ∈ Rule.table) :
    (draft.takeSurfaces index line rule).log =
      draft.log ++ repeatLog (index + 1) (decide (draft.surfaceLines ≠ 0)) rule := by
  have hgives := (flags_of_mem h).2
  unfold takeSurfaces repeatLog
  by_cases hrule : rule.givesSurfaces = true
  · rw [if_pos hrule]
    by_cases hfirst : draft.surfaceLines = 0
    · simp [hfirst, log]
    · have hwarned : rule.name = "wall-group".toList ∧ decide (draft.surfaceLines ≠ 0) = true :=
        ⟨hgives.1 hrule, decide_eq_true hfirst⟩
      simp only [if_neg hfirst, if_pos hwarned]
      exact log_note draft (.wallGroupRepeated (index + 1))
  · rw [if_neg hrule, if_neg fun hboth => hrule (hgives.2 hboth.1), List.append_nil]

section Rules

variable (base line : Text) (index : Nat)

theorem surfaceLines_applyRule (state : Text × Draft) (rule : Rule) :
    (applyRule base index line state rule).2.surfaceLines =
      state.2.surfaceLines + if rule.givesSurfaces then 1 else 0 := by
  unfold applyRule takeSurfaces spacePrevious countEdit note
  grind

/-- **A rule of the table reports its turn.** -/
theorem log_applyRule (state : Text × Draft) {rule : Rule} (h : rule ∈ Rule.table) :
    (applyRule base index line state rule).2.log =
      state.2.log ++ turnLog (index + 1) (rule.edited? state.1 base).isSome
        (decide (state.2.surfaceLines ≠ 0)) rule := by
  have hlines : ∀ (draft : Draft) (done : Bool),
      ((draft.countEdit index rule done).spacePrevious index rule).surfaceLines =
        draft.surfaceLines := by
    intro draft done
    unfold spacePrevious countEdit note
    grind
  unfold applyRule
  rw [log_takeSurfaces _ _ _ h, log_spacePrevious _ _ h, log_countEdit, hlines, turnLog]
  simp only [List.append_assoc]

/-- Another rule does not see whether this one has taken the surface list: at most one of the two
asks for that. -/
theorem turnLog_surfaceLines_applyRule {rule other : Rule} (h : rule ∈ Rule.table)
    (hne : other.name ≠ rule.name) (state : Text × Draft) (number : Nat) (edits : Bool) :
    turnLog number edits
        (decide ((applyRule base index line state rule).2.surfaceLines ≠ 0)) other =
      turnLog number edits (decide (state.2.surfaceLines ≠ 0)) other := by
  rw [surfaceLines_applyRule]
  by_cases hgives : rule.givesSurfaces
  · have hnotWall : other.name ≠ "wall-group".toList := by
      rwa [← (flags_of_mem h).2.1 hgives]
    simp only [turnLog, repeatLog, hnotWall, false_and, if_false]
  · rw [if_neg hgives]
    rfl

/-- **The rules report their turns in table order.** -/
theorem log_foldl_applyRule {rules : List Rule} (hrules : rules.Sublist Rule.table)
    (state : Text × Draft) :
    (rules.foldl (applyRule base index line) state).2.log =
      state.2.log ++ rules.flatMap fun rule =>
        turnLog (index + 1) (decide (rule ∈ Rule.effective base rules state.1))
          (decide (state.2.surfaceLines ≠ 0)) rule := by
  induction rules generalizing state with
  | nil => simp
  | cons rule rules ih =>
    have hrule : rule ∈ Rule.table := hrules.subset List.mem_cons_self
    obtain ⟨hname, -⟩ := List.nodup_cons.1 (Rule.nodup_names.sublist (hrules.map (·.name)))
    have hne : ∀ other ∈ rules, other.name ≠ rule.name := fun other hmem heq =>
      hname (List.mem_map.2 ⟨other, hmem, heq⟩)
    have hself : rule ∈ Rule.effective base (rule :: rules) state.1 ↔
        (rule.edited? state.1 base).isSome = true :=
      Rule.mem_effective_cons_self fun hmem => hne rule hmem rfl
    -- the other rules are given what this one has left
    have hback : ∀ other ∈ rules,
        turnLog (index + 1)
            (decide (other ∈ Rule.effective base rules (applyRule base index line state rule).1))
            (decide ((applyRule base index line state rule).2.surfaceLines ≠ 0)) other =
          turnLog (index + 1) (decide (other ∈ Rule.effective base (rule :: rules) state.1))
            (decide (state.2.surfaceLines ≠ 0)) other := by
      intro other hmem
      have hother : other ∈ Rule.effective base (rule :: rules) state.1 ↔
          other ∈ Rule.effective base rules ((rule.edited? state.1 base).getD state.1) :=
        Rule.mem_effective_cons_of_ne fun heq => hne other hmem (congrArg (·.name) heq)
      rw [turnLog_surfaceLines_applyRule base line index hrule (hne other hmem),
        decide_eq_decide.2 hother]
      rfl
    rw [List.foldl_cons, ih ((List.sublist_cons_self rule rules).trans hrules),
      log_applyRule _ _ _ _ hrule, List.append_assoc, List.flatMap_cons, List.flatMap_congr hback]
    simp only [hself, Bool.decide_eq_true]

/-! ## A line, and a script -/

theorem surfaceLines_foldl_applyRule (rules : List Rule) (state : Text × Draft) :
    (rules.foldl (applyRule base index line) state).2.surfaceLines =
      state.2.surfaceLines + rules.countP (·.givesSurfaces) := by
  induction rules generalizing state with
  | nil => rfl
  | cons rule rules ih =>
    rw [List.foldl_cons, ih, surfaceLines_applyRule, List.countP_cons]
    omega

/-- A line is a wall-group line once, if at all. -/
theorem countP_givesSurfaces_firing :
    (Rule.firing line).countP (·.givesSurfaces) =
      if line.includes "mg_wall".toList then 1 else 0 := by
  have hone : Rule.table.countP (·.givesSurfaces) = 1 := by decide
  have hle : (Rule.firing line).countP (·.givesSurfaces) ≤ 1 :=
    hone ▸ List.filter_sublist.countP_le
  have hpos : 0 < (Rule.firing line).countP (·.givesSurfaces) ↔
      line.includes "mg_wall".toList = true := by
    rw [List.countP_pos_iff, ← List.any_eq_true]
    exact Bool.eq_iff_iff.1 (Rule.isWallLine_eq line)
  split
  · rename_i hwall
    exact Nat.le_antisymm hle (hpos.2 hwall)
  · rename_i hwall
    exact Nat.eq_zero_of_not_pos (mt hpos.1 hwall)

end Rules

theorem surfaceLines_scanLine (base : Text) (draft : Draft) (line : Text) (index : Nat) :
    (draft.scanLine base (line, index)).surfaceLines =
      draft.surfaceLines + if line.includes "mg_wall".toList then 1 else 0 := by
  rw [← countP_givesSurfaces_firing]
  unfold scanLine
  simp only []
  split <;> split <;> exact surfaceLines_foldl_applyRule base line index _ _

theorem surfaceLines_ofScript (base : Text) (lines : List Text) :
    (ofScript base ⟨lines⟩).surfaceLines = lines.countP (·.includes "mg_wall".toList) := by
  induction lines using List.reverseRecOn with
  | nil => rfl
  | append_singleton lines line ih =>
    rw [ofScript_concat, surfaceLines_scanLine, ih, List.countP_append, List.countP_singleton]

/-- The log of a line starts with the report of the rules that fire on it. -/
theorem log_scanLine (base : Text) (draft : Draft) (line : Text) (index : Nat) :
    (draft.scanLine base (line, index)).log =
      draft.log ++ (severalLog (index + 1) (Rule.firing line) ++
        (Rule.firing line).flatMap fun rule =>
          turnLog (index + 1) (decide (rule ∈ Rule.editing base line))
            (decide (draft.surfaceLines ≠ 0)) rule) := by
  have hfold := log_foldl_applyRule base line index
    (List.filter_sublist : (Rule.firing line).Sublist Rule.table)
  unfold scanLine severalLog
  by_cases h : 2 ≤ (Rule.firing line).length
  · have hwarned := log_note draft
      (.severalRules (index + 1) ((Rule.firing line).map (·.name)))
    have hstart := hfold (line, draft.note
      (.severalRules (index + 1) ((Rule.firing line).map (·.name))))
    rw [hwarned, List.append_assoc] at hstart
    simp only [if_pos (show 1 < (Rule.firing line).length from h), if_pos h]
    split <;> exact hstart
  · simp only [if_neg (show ¬ 1 < (Rule.firing line).length from h), if_neg h, List.nil_append]
    split <;> exact hfold (line, draft)

/-- Behind the lines before it the log of a line is `lineLog`. -/
theorem log_scanLine_ofScript (base : Text) (before : List Text) (line : Text) :
    ((ofScript base ⟨before⟩).scanLine base (line, before.length)).log =
      (ofScript base ⟨before⟩).log ++ lineLog base before line := by
  have hrepeated : decide ((ofScript base ⟨before⟩).surfaceLines ≠ 0) =
      before.any (·.includes "mg_wall".toList) := by
    rw [surfaceLines_ofScript, Bool.eq_iff_iff, decide_eq_true_eq, ← Nat.pos_iff_ne_zero,
      List.countP_pos_iff, List.any_eq_true]
  have hturns : ∀ rule ∈ Rule.firing line,
      turnLog (before.length + 1) (decide (rule ∈ Rule.editing base line))
          (decide ((ofScript base ⟨before⟩).surfaceLines ≠ 0)) rule =
        turnLog (before.length + 1) (rule.editsAtTurn base line)
          (before.any (·.includes "mg_wall".toList)) rule := by
    intro rule hmem
    have hedits : decide (rule ∈ Rule.editing base line) = rule.editsAtTurn base line := by
      rw [Bool.eq_iff_iff, decide_eq_true_eq, Rule.mem_editing_iff (List.mem_of_mem_filter hmem)]
    rw [hedits, hrepeated]
  rw [log_scanLine, List.flatMap_congr hturns, lineLog]

/-- **The log of a script** is that of its lines, in order. -/
theorem log_ofScript (base : Text) (lines : List Text) :
    (ofScript base ⟨lines⟩).log =
      lines.zipIdx.flatMap fun (line, i) => lineLog base (lines.take i) line := by
  induction lines using List.reverseRecOn with
  | nil => rfl
  | append_singleton lines line ih =>
    -- the lines before another one do not see the line at the end
    have hbefore : ∀ entry ∈ lines.zipIdx,
        lineLog base ((lines ++ [line]).take entry.2) entry.1 =
          lineLog base (lines.take entry.2) entry.1 := by
      intro entry hentry
      obtain ⟨-, hlt, -⟩ := List.mem_zipIdx hentry
      rw [List.take_append_of_le_length (by omega)]
    rw [ofScript_concat, log_scanLine_ofScript, ih, List.zipIdx_append, List.flatMap_append,
      List.flatMap_congr hbefore]
    simp

/-! ## What the records account for -/

/-- The rules that the records of an edit name, in order. -/
def editors (log : List Record) : List Text :=
  (log.filter (·.message? = some "rewrote line")).filterMap (·.rule?)

theorem count_editors (log : List Record) (name : Text) :
    (editors log).count name = log.countP fun record =>
      record.message? = some "rewrote line" ∧ record.rule? = some name := by
  rw [editors, List.count, List.countP_filterMap, List.countP_filter]
  refine List.countP_congr fun record _ => ?_
  cases record.rule? <;> simp [and_comm]

theorem editors_append (front back : List Record) :
    editors (front ++ back) = editors front ++ editors back := by
  simp [editors]

theorem editors_flatMap {α : Type} (parts : List α) (log : α → List Record) :
    editors (parts.flatMap log) = parts.flatMap fun part => editors (log part) := by
  simp only [editors, List.filter_flatMap, List.filterMap_flatMap]

theorem editors_severalLog (number : Nat) (rules : List Rule) :
    editors (severalLog number rules) = [] := by
  unfold severalLog
  split <;> rfl

theorem editors_turnLog (number : Nat) (edits repeated : Bool) (rule : Rule) :
    editors (turnLog number edits repeated rule) = if edits then [rule.name] else [] := by
  unfold turnLog editLog spaceLog repeatLog
  split_ifs <;> rfl

/-- The edits of a line stand in its log. -/
theorem editors_lineLog (base : Text) (before : List Text) (line : Text) :
    editors (lineLog base before line) = (Rule.editing base line).map (·.name) := by
  rw [lineLog, editors_append, editors_severalLog, List.nil_append, editors_flatMap,
    Rule.editing_eq_filter]
  simp only [editors_turnLog]
  induction Rule.firing line with
  | nil => rfl
  | cons rule rules ih =>
    rw [List.flatMap_cons, List.filter_cons, ih]
    split <;> simp

/-- **The tally is that of the rules that the log names for an edit.** -/
theorem edits_eq_ofNames_log (base : Text) (lines : List Text) :
    (ofScript base ⟨lines⟩).edits = Tally.ofNames (editors (ofScript base ⟨lines⟩).log) := by
  have hlines : (lines.zipIdx.flatMap fun entry => (Rule.editing base entry.1).map (·.name)) =
      lines.flatMap fun line => (Rule.editing base line).map (·.name) := by
    conv_rhs => rw [← List.zipIdx_map_fst 0 lines, List.flatMap_map]
  rw [edits_ofScript, log_ofScript, editors_flatMap, ← hlines]
  simp only [editors_lineLog]

/-- The number of warnings about a wall-group line that is not the first one. -/
def repeats (log : List Record) : Nat :=
  log.countP (·.message? =
    some "repeated wall-group line, its surface list replaces the earlier one")

theorem repeats_append (front back : List Record) :
    repeats (front ++ back) = repeats front + repeats back :=
  List.countP_append

/-- Where every part of a log has one warning or none, the parts with one are counted. -/
theorem repeats_flatMap {α : Type} {parts : List α} {log : α → List Record} {warns : α → Bool}
    (h : ∀ part ∈ parts, repeats (log part) = if warns part then 1 else 0) :
    repeats (parts.flatMap log) = parts.countP warns := by
  induction parts with
  | nil => rfl
  | cons part parts ih =>
    obtain ⟨hpart, hparts⟩ := List.forall_mem_cons.1 h
    rw [List.flatMap_cons, repeats_append, hpart, ih hparts, List.countP_cons, Nat.add_comm]

theorem repeats_severalLog (number : Nat) (rules : List Rule) :
    repeats (severalLog number rules) = 0 := by
  unfold severalLog
  split <;> rfl

theorem repeats_turnLog (number : Nat) (edits repeated : Bool) (rule : Rule) :
    repeats (turnLog number edits repeated rule) =
      if rule.name = "wall-group".toList ∧ repeated then 1 else 0 := by
  unfold turnLog editLog spaceLog repeatLog
  split_ifs <;> rfl

/-- A wall-group line is warned of if there is one before it. -/
theorem repeats_lineLog (base : Text) (before : List Text) (line : Text) :
    repeats (lineLog base before line) =
      if line.includes "mg_wall".toList ∧ before.any (·.includes "mg_wall".toList) then 1
      else 0 := by
  have hturn : ∀ rule ∈ Rule.firing line,
      repeats (turnLog (before.length + 1) (rule.editsAtTurn base line)
          (before.any (·.includes "mg_wall".toList)) rule) =
        if rule.givesSurfaces && before.any (·.includes "mg_wall".toList) then 1 else 0 := by
    intro rule hmem
    rw [repeats_turnLog]
    simp only [Bool.and_eq_true, (flags_of_mem (List.mem_of_mem_filter hmem)).2]
  rw [lineLog, repeats_append, repeats_severalLog, Nat.zero_add, repeats_flatMap hturn]
  cases before.any (·.includes "mg_wall".toList) with
  | true => simp only [Bool.and_true, countP_givesSurfaces_firing, and_true]
  | false => simp only [Bool.and_false, Bool.false_eq_true, and_false, if_false, List.countP_false,
      Function.const]

/-- **All wall-group lines but the first are warned of.** -/
theorem repeats_log_ofScript (base : Text) (lines : List Text) :
    repeats (ofScript base ⟨lines⟩).log = lines.countP (·.includes "mg_wall".toList) - 1 := by
  induction lines using List.reverseRecOn with
  | nil => rfl
  | append_singleton lines line ih =>
    have hbefore : lines.any (·.includes "mg_wall".toList) = true ↔
        0 < lines.countP (·.includes "mg_wall".toList) := by
      rw [List.countP_pos_iff, List.any_eq_true]
    rw [ofScript_concat, log_scanLine_ofScript, repeats_append, ih, repeats_lineLog,
      List.countP_append, List.countP_singleton]
    simp only [hbefore]
    by_cases hline : line.includes "mg_wall".toList = true
    · rw [if_pos hline]
      simp only [hline, true_and]
      split <;> omega
    · rw [if_neg hline, if_neg fun h => hline h.1]
      omega

end Draft

/-! ## The stage -/

theorem turnLog_ne_nil (number : Nat) (edits repeated : Bool) (rule : Rule) :
    turnLog number edits repeated rule ≠ [] := by
  rw [turnLog, List.append_assoc]
  exact List.append_ne_nil_of_left_ne_nil (List.cons_ne_nil _ _) _

/-- **Nothing is told** of a line exactly if no rule fires on it. -/
theorem lineLog_eq_nil_iff (base : Text) (before : List Text) (line : Text) :
    lineLog base before line = [] ↔ Rule.firing line = [] := by
  constructor
  · intro h
    rw [lineLog, List.append_eq_nil_iff, List.flatMap_eq_nil_iff] at h
    exact List.eq_nil_iff_forall_not_mem.2 fun rule hmem => turnLog_ne_nil _ _ _ _ (h.2 rule hmem)
  · intro h
    rw [lineLog, h]
    rfl

/-- **The log of the stage.** It is that of the lines, in order: for each line a warning if two
rules or more fire on it, and then the report of each rule that fires, in table order; nothing is
told of a line on which no rule fires. For every name the tally holds as many edits as there are
records of one under it, and there are as many warnings about a repeated wall group as wall-group
lines behind the first. -/
theorem substitute_log (base : Text) (script : Script) :
    ∃ edited, ((substitute base).run script).outcome = .ok edited ∧
      let log := ((substitute base).run script).events.map Event.record
      (log = script.lines.zipIdx.flatMap fun (line, i) =>
        lineLog base (script.lines.take i) line) ∧
      (∀ before line, lineLog base before line = [] ↔ Rule.firing line = []) ∧
      (∀ name, edited.edits.count name = log.countP fun record =>
        record.message? = some "rewrote line" ∧ record.rule? = some name) ∧
      log.countP (·.message? =
          some "repeated wall-group line, its surface list replaces the earlier one") =
        script.lines.countP (·.includes "mg_wall".toList) - 1 := by
  have hlog : ((substitute base).run script).events.map Event.record =
      (Draft.ofScript base ⟨script.lines⟩).log := rfl
  rw [hlog]
  refine ⟨_, substitute_outcome base script, Draft.log_ofScript base script.lines,
    lineLog_eq_nil_iff base, fun name => ?_, Draft.repeats_log_ofScript base script.lines⟩
  rw [← Draft.count_editors, ← Tally.count_ofNames, ← Draft.edits_eq_ofNames_log]

/-- The rule for saving takes the token away that the wall group looks for. -/
example :
    ((substitute "wing".toList).run ⟨["Save \"mg_wall\";".toList]⟩).events.map Event.record =
    [.entry .warn "line matches several substitution rules"
      [("line", .count 1), ("rules", .text "[\"save\", \"wall-group\"]".toList)],
    .entry .debug "rewrote line" [("line", .count 1), ("rule", .text "save".toList)],
    .entry .debug "trigger present without quoted placeholder, line left unchanged"
      [("line", .count 1), ("rule", .text "wall-group".toList)]] := by
  decide +kernel

end MeshScript
