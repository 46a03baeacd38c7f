import MeshScript.Proofs.Substitution.Edits
/-!
# MeshScript.Proofs.Substitution.Turns -- each rule at its turn

What the stage does, said line by line and rule by rule, with no draft and no second pass in it.
On each line the rules take turns: those whose trigger stands in the line as it was, in table
order, each given what the ones before it have left (`Rule.atTurn`). A rule edits the line if it
makes something of what it is given then (`Rule.editsAtTurn`), and the tally is that of these
edits: `Draft.lookup_edits_ofScript` says what it holds under any name, and that it has no entry
for a rule that has edited nothing.

`substitute_turns` puts this together with the lines and the surface list of the stage.
-/

namespace MeshScript

namespace Rule

/-! ## The turn of a rule -/

/-- **The line as a rule is given it**: the rules before it in the table that fire have had their
turn. -/
def atTurn (rule : Rule) (base line : Text) : Text :=
  applyAll base ((table.takeWhile (· ≠ rule)).filter (·.firesOn line)) line

/-- **The rule edits the line**: it fires, and makes something of what it is given at its turn. -/
def editsAtTurn (rule : Rule) (base line : Text) : Bool :=
  rule.firesOn line && (rule.edited? (rule.atTurn base line) base).isSome

theorem effective_append (base : Text) (front back : List Rule) (current : Text) :
    effective base (front ++ back) current =
      effective base front current ++ effective base back (applyAll base front current) := by
  induction front generalizing current with
  | nil => rfl
  | cons rule front ih =>
    rw [List.cons_append, effective_cons, effective_cons, ih, List.append_assoc]
    rfl

/-- Where a rule stands once, it edits what the rules before it have left. -/
theorem mem_effective_append_cons {rule : Rule} {front back : List Rule} (hfront : rule ∉ front)
    (hback : rule ∉ back) {base current : Text} :
    rule ∈ effective base (front ++ rule :: back) current ↔
      (rule.edited? (applyAll base front current) base).isSome = true := by
  have hbefore : rule ∉ effective base front current := fun hmem =>
    hfront ((effective_sublist base front current).subset hmem)
  have hbehind : ∀ next, rule ∉ effective base back next := fun next hmem =>
    hback ((effective_sublist base back next).subset hmem)
  rw [effective_append, effective_cons, List.mem_append, List.mem_append, or_iff_right hbefore,
    or_iff_left (hbehind _)]
  cases (rule.edited? (applyAll base front current) base).isSome <;> simp

/-- Any other rule than the first one edits what that has left. -/
theorem mem_effective_cons_of_ne {base : Text} {rule other : Rule} {rules : List Rule}
    {current : Text} (h : other ≠ rule) :
    other ∈ effective base (rule :: rules) current ↔
      other ∈ effective base rules ((rule.edited? current base).getD current) := by
  have hnot : other ∉ if (rule.edited? current base).isSome = true then [rule] else [] := by
    split <;> simp [h]
  rw [effective_cons, List.mem_append, or_iff_right hnot]

/-- The first rule edits the line as it is. -/
theorem mem_effective_cons_self {base : Text} {rule : Rule} {rules : List Rule} {current : Text}
    (h : rule ∉ rules) :
    rule ∈ effective base (rule :: rules) current ↔
      (rule.edited? current base).isSome = true := by
  rw [← List.nil_append (rule :: rules), mem_effective_append_cons List.not_mem_nil h]
  rfl

/-- The rules that edit stand in the order in which they were given. -/
theorem filter_mem_effective {base : Text} {rules : List Rule} (h : rules.Nodup)
    (current : Text) :
    (rules.filter fun rule => decide (rule ∈ effective base rules current)) =
      effective base rules current := by
  induction rules generalizing current with
  | nil => rfl
  | cons rule rules ih =>
    obtain ⟨hrule, hrules⟩ := List.nodup_cons.1 h
    have hother : ∀ other ∈ rules, decide (other ∈ effective base (rule :: rules) current) =
        decide (other ∈ effective base rules ((rule.edited? current base).getD current)) :=
      fun other hmem => decide_eq_decide.2
        (mem_effective_cons_of_ne fun heq => hrule (heq ▸ hmem))
    rw [List.filter_cons, List.filter_congr hother, ih hrules]
    simp only [decide_eq_true_eq, mem_effective_cons_self hrule]
    rw [effective_cons]
    split <;> rfl

/-- The table is cut at one of its rules, which stands nowhere else in it. -/
theorem exists_table_eq {rule : Rule} (h : rule ∈ table) :
    ∃ back, table = table.takeWhile (· ≠ rule) ++ rule :: back ∧
      rule ∉ table.takeWhile (· ≠ rule) ∧ rule ∉ back := by
  obtain ⟨front, back, htable, hfront⟩ := List.eq_append_cons_of_mem h
  have hnodup := nodup_table
  have htake : table.takeWhile (· ≠ rule) = front := by
    have hpass : ∀ other ∈ front, decide (other ≠ rule) = true := fun other hmem =>
      decide_eq_true fun heq => hfront (heq ▸ hmem)
    rw [htable, List.takeWhile_append_of_pos hpass]
    simp
  rw [htable, List.nodup_append] at hnodup
  refine ⟨back, ?_, ?_, ?_⟩
  · rw [htake, ← htable]
  · rwa [htake]
  · exact (List.nodup_cons.1 hnodup.2.1).1

/-- **The rules that edit a line** are those that do so at their turn. -/
theorem mem_editing_iff {rule : Rule} (h : rule ∈ table) {base line : Text} :
    rule ∈ editing base line ↔ rule.editsAtTurn base line = true := by
  obtain ⟨back, htable, hfront, hback⟩ := exists_table_eq h
  have hfiring : firing line = (table.takeWhile (· ≠ rule)).filter (·.firesOn line) ++
      (rule :: back).filter (·.firesOn line) := by
    rw [← List.filter_append, ← htable, firing]
  cases hfires : rule.firesOn line with
  | true =>
    rw [List.filter_cons, if_pos hfires] at hfiring
    rw [editing, hfiring,
      mem_effective_append_cons (fun hmem => hfront (List.mem_of_mem_filter hmem))
        (fun hmem => hback (List.mem_of_mem_filter hmem)),
      editsAtTurn, hfires, Bool.true_and, atTurn]
  | false =>
    have hnot : rule ∉ editing base line := by
      intro hmem
      have hmem := List.of_mem_filter ((effective_sublist base (firing line) line).subset hmem)
      exact Bool.false_ne_true (hfires.symm.trans hmem)
    simp [editsAtTurn, hfires, hnot]

/-- In table order they are those that fire and edit at their turn. -/
theorem editing_eq_filter (base line : Text) :
    editing base line = (firing line).filter (·.editsAtTurn base line) := by
  have hnodup : (firing line).Nodup := nodup_table.filter _
  have hmem : ∀ rule ∈ firing line, decide (rule ∈ effective base (firing line) line) =
      rule.editsAtTurn base line := by
    intro rule hrule
    rw [Bool.eq_iff_iff, decide_eq_true_eq]
    exact mem_editing_iff (List.mem_of_mem_filter hrule)
  rw [editing, ← filter_mem_effective hnodup, List.filter_congr hmem]

/-- Two rules fire on this line, but the second one is given what the first has written. -/
example : (named? "wall-group".toList).map (fun rule =>
    (rule.firesOn "Save \"mg_wall\";".toList,
      rule.editsAtTurn "wing".toList "Save \"mg_wall\";".toList)) = some (true, false) := by
  decide

/-- A name is that of a rule, or of none. -/
theorem named?_cases (name : Text) :
    (∃ rule ∈ table, rule.name = name ∧ named? name = some rule) ∨
      (∀ rule ∈ table, rule.name ≠ name) ∧ named? name = none := by
  cases h : named? name with
  | some rule =>
    have hname : rule.name = name := by simpa using List.find?_some h
    exact Or.inl ⟨rule, List.mem_of_find?_eq_some h, hname, rfl⟩
  | none =>
    refine Or.inr ⟨fun rule hmem hname => ?_, rfl⟩
    exact List.find?_eq_none.1 h rule hmem (decide_eq_true hname)

end Rule

/-! ## The entries of the tally -/

namespace Draft

/-- Among the rules that edit the lines, each stands as often as it edits one at its turn. -/
theorem count_names_editing {rule : Rule} (h : rule ∈ Rule.table) (base : Text)
    (lines : List Text) :
    (lines.flatMap fun line => (Rule.editing base line).map (·.name)).count rule.name =
      lines.countP (rule.editsAtTurn base) := by
  rw [← Tally.count_ofNames, ← edits_ofScript, count_edits h]
  refine List.countP_congr fun line _ => ?_
  rw [decide_eq_true_eq, Rule.mem_editing_iff h]

/-- **What the tally of a script holds** under a name: for a rule the number of lines that it edits
at its turn, if there are any; otherwise nothing. -/
theorem lookup_edits_ofScript (base : Text) (lines : List Text) (name : Text) :
    (ofScript base ⟨lines⟩).edits.entries.lookup name =
      (Rule.named? name).bind fun rule =>
        let count := lines.countP (rule.editsAtTurn base)
        if count = 0 then none else some count := by
  rw [edits_ofScript, Tally.lookup_ofNames]
  rcases Rule.named?_cases name with ⟨rule, hrule, rfl, hnamed⟩ | ⟨hother, hnamed⟩
  · rw [hnamed, Option.bind_some, ← count_names_editing hrule]
    simp only [List.count_eq_zero, ite_not]
  · rw [hnamed, Option.bind_none, if_neg]
    intro hmem
    obtain ⟨line, -, hname⟩ := List.mem_flatMap.1 hmem
    obtain ⟨rule, hediting, hname⟩ := List.mem_map.1 hname
    exact hother rule ((Rule.editing_sublist base line).subset hediting) hname

end Draft

/-! ## The stage -/

/-- **The stage, line by line and rule by rule.** It succeeds, on every script and for every base
name. It keeps the number of lines. Each line is given to the rules whose trigger stands in it, in
table order, and has a line feed behind it if the next line asks for element order. The surface
list is that of the last line with the wall token. The tally has one entry a name at most; for each
rule it holds the number of lines that the rule edits at its turn, and nothing if that is zero. -/
theorem substitute_turns (base : Text) (script : Script) :
    ∃ edited, ((substitute base).run script).outcome = .ok edited ∧
      edited.script.lines.length = script.lines.length ∧
      (∀ i, edited.script.lines[i]? = script.lines[i]?.map fun line =>
        Rule.applyAll base (Rule.table.filter fun rule => line.includes rule.trigger) line ++
          if script.lines[i + 1]?.any (·.includes "ElementOrder".toList) then ['\n'] else []) ∧
      edited.surfaces =
        (script.lines.filter (·.includes "mg_wall".toList)).getLast?.bind SurfaceList.ofLine? ∧
      Tally.Sorted edited.edits.entries ∧
      ∀ name, edited.edits.entries.lookup name = (Rule.named? name).bind fun rule =>
        let count := script.lines.countP (rule.editsAtTurn base)
        if count = 0 then none else some count := by
  refine ⟨_, substitute_outcome base script, Rule.length_editLines base script.lines, ?_, ?_, ?_,
    ?_⟩
  · intro i
    show (Rule.editLines base script.lines)[i]? = _
    rw [Rule.getElem?_editLines, Rule.spaceBefore, List.head?_drop, funext Rule.asksForSpace_eq]
    rfl
  · show Rule.surfacesOf script.lines = _
    rw [Rule.surfacesOf, funext Rule.isWallLine_eq]
    rfl
  · show Tally.Sorted (Draft.ofScript base ⟨script.lines⟩).edits.entries
    rw [Draft.edits_ofScript]
    exact Tally.sorted_ofNames _
  · exact Draft.lookup_edits_ofScript base script.lines

end MeshScript
