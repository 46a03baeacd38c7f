import MeshScript.Proofs.Substitution.LastRule
/-!
# MeshScript.Proofs.Substitution.Tokens -- no quoted group token is left

A group rule goes over the line once, from the left and without overlaps, and the five go one
after the other. Quoted tokens may touch, share a quote or repeat, so it has to be shown that
nothing is left between two replacements and that no later rule puts a token together again. Both
hold for one reason: a number shares no character with a quoted token. So an occurrence in the
replaced line was one in the line before, and of those the scan passed over none
(`not_quoted_infix_applyAll`).

A whole-line rule overwrites the line, tokens and all; what it writes has two quotes, with the
file name between them. Hence no line has a quoted token after the stage, as long as the base name
brings no quote (`substitute_no_quoted_token`).
-/

namespace MeshScript

namespace Rule

/-- Group rules bring no quoted token into a line. -/
theorem quoted_infix_of_applyAll {rules : List Rule} (hrules : rules ⊆ groupRules) {other : Rule}
    (hother : other ∈ groupRules) {base current : Text}
    (hin : other.quoted <:+: applyAll base rules current) : other.quoted <:+: current :=
  infix_of_applyAll hrules (fun _ hrule => disjoint_digits_quoted hrule hother) hin

/-- **Behind its rule no quoted token is left**, whatever group rules come before and after. -/
theorem not_quoted_infix_applyAll {rules : List Rule} (hrules : rules ⊆ groupRules) {group : Rule}
    (hgroup : group ∈ rules) (base current : Text) :
    ¬ group.quoted <:+: applyAll base rules current := by
  induction rules generalizing current with
  | nil => simp at hgroup
  | cons rule rules ih =>
    have hrule : rule ∈ groupRules := hrules List.mem_cons_self
    have hrest : rules ⊆ groupRules := fun _ hmem => hrules (List.mem_cons_of_mem rule hmem)
    rw [applyAll_cons_groupRule hrule]
    rcases List.mem_cons.1 hgroup with rfl | hgroup
    · intro hin
      exact Text.not_infix_replaceAll group.quoted_ne_nil (digits_ne_nil hrule)
        (disjoint_digits_quoted hrule hrule) current (quoted_infix_of_applyAll hrest hrule hin)
    · exact ih hrest hgroup _

/-- **An edited line has no quoted token.** -/
theorem not_quoted_infix_editLine {base : Text} (hbase : '"' ∉ base) {group : Rule}
    (hgroup : group ∈ groupRules) (line : Text) : ¬ group.quoted <:+: editLine base line := by
  cases hdeciding : deciding? line with
  | some rule =>
    have hrule : rule ∈ wholeLineRules :=
      List.mem_reverse.1 (List.mem_of_find?_eq_some hdeciding)
    rw [editLine_of_deciding hbase hdeciding]
    exact not_quoted_infix_replacement hrule hgroup hbase
  | none =>
    rw [editLine_of_undecided hdeciding, ← applyAll_groupRules base]
    exact not_quoted_infix_applyAll (List.Subset.refl _) hgroup base line

/-- Nor has it one with a line feed behind it. -/
theorem not_quoted_infix_of_mem_editLines {base : Text} (hbase : '"' ∉ base) {group : Rule}
    (hgroup : group ∈ groupRules) (lines : List Text) :
    ∀ line ∈ editLines base lines, ¬ group.quoted <:+: line := by
  have hfeed : '\n' ∉ group.quoted := (neutral_of_mem '\n' (by decide) group hgroup).1
  apply forall_mem_editLines
  · intro line _
    exact not_quoted_infix_editLine hbase hgroup line
  · intro line hline
    rwa [Text.infix_concat_iff_of_notMem hfeed]

end Rule

/-- **No quoted group token is left** in any line that the stage gives, if the base name holds no
quote. -/
theorem substitute_no_quoted_token {base : Text} (hbase : '"' ∉ base) (script : Script) :
    ∃ edited, ((substitute base).run script).outcome = .ok edited ∧
      ∀ line ∈ edited.script.lines,
        ∀ token ∈ ["mg_wall".toList, "mg_symmetry".toList, "mg_farfield".toList,
          "mg_interog".toList, "mg_volume".toList],
        ¬ '"' :: token ++ ['"'] <:+: line := by
  have htokens : ["mg_wall".toList, "mg_symmetry".toList, "mg_farfield".toList,
      "mg_interog".toList, "mg_volume".toList] = Rule.groupRules.map (·.trigger) := by
    decide
  refine ⟨_, substitute_outcome base script, ?_⟩
  intro line hline token htoken
  rw [htokens] at htoken
  obtain ⟨group, hgroup, rfl⟩ := List.mem_map.1 htoken
  exact Rule.not_quoted_infix_of_mem_editLines hbase hgroup script.lines line hline

/-- Tokens that touch, share a quote and repeat, tokens in a statement that is retargeted, and one
before an element-order line. -/
def sampleQuoted : Script :=
  ⟨[ "(\"mg_wall\"\"mg_volume\") \"mg_wall\"mg_wall\"mg_interog\"".toList,
    "Merge \"mg_wall\"mg_volume\";".toList, "\"mg_farfield\"".toList,
    "ElementOrder \"mg_symmetry\"".toList ]⟩

/-- Of two tokens that share a quote the first one is numbered, and the other is then no longer
quoted. -/
theorem substitute_no_quoted_token_sample :
    '"' ∉ "wing".toList ∧
      ∃ edited, ((substitute "wing".toList).run sampleQuoted).outcome = .ok edited ∧
        edited.script.lines = [ "(14) 1mg_wall11".toList, "Merge \"wing.brep\";\n".toList,
          "9\n".toList, "Mesh.ElementOrder = 1;".toList ] ∧
        ∀ line ∈ edited.script.lines, ¬ "\"mg_wall\"".toList <:+: line := by
  have hbase : '"' ∉ "wing".toList := by decide
  obtain ⟨edited, hok, hnone⟩ := substitute_no_quoted_token hbase sampleQuoted
  have hlines : edited.script.lines = Rule.editLines "wing".toList sampleQuoted.lines := by
    rw [substitute_outcome] at hok
    rw [← Except.ok.inj hok]
  refine ⟨hbase, edited, hok, ?_, ?_⟩
  · rw [hlines]
    decide +kernel
  · exact fun line hline => hnone line hline "mg_wall".toList (by simp)

end MeshScript
