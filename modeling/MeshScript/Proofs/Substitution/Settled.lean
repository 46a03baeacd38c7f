import MeshScript.Proofs.Substitution.Tokens
import MeshScript.Proofs.Substitution.Edits
/-!
# MeshScript.Proofs.Substitution.Settled -- an edited line is left alone

Triggers are tested on the line as it is, so a second run asks the table about what the first one
has written. It could fire other rules there: the base name may hold triggers, and a number that
stands where a token was may close up with its neighbours. `Settled` says what is true of a line all
the same once the rules have been over it (`settled_editLine`): no quoted group token is left in it,
and if a whole-line rule decides it, then the line is what that rule writes. The rules leave a
settled line as it is (`Settled.editLine_eq`).

A whole-line rule decides the line that it has written itself (`deciding?_replacement`): its trigger
stands there, and no later trigger does. With a base name in the line that has to be asked of the
base name as well. `Merge` is the only trigger behind that of `Save`, so it is the only one that
must not stand in the base name.
-/

namespace MeshScript

namespace Rule

/-! ## Whole-line rules on what they have written -/

theorem deciding?_eq_none_iff {line : Text} :
    deciding? line = none ↔ ∀ rule ∈ wholeLineRules, ¬ rule.trigger <:+: line := by
  simp only [deciding?, List.find?_eq_none, List.mem_reverse, firesOn, Text.includes_iff]

/-- A whole-line rule decides a line on which it fires and no later one does. -/
theorem deciding?_eq_some {front back : List Rule} {rule : Rule}
    (htable : wholeLineRules = front ++ rule :: back) {line : Text}
    (hfires : rule.trigger <:+: line) (hlater : ∀ later ∈ back, ¬ later.trigger <:+: line) :
    deciding? line = some rule := by
  have hnone : back.reverse.find? (·.firesOn line) = none := by
    simpa only [List.find?_eq_none, List.mem_reverse, firesOn, Text.includes_iff] using hlater
  have hfires : rule.firesOn line = true := Text.includes_iff.2 hfires
  rw [deciding?, htable, List.reverse_append, List.reverse_cons, List.append_assoc,
    List.find?_append, hnone, Option.none_or, List.singleton_append]
  exact List.find?_cons_of_pos hfires

/-- What the line that a rule writes starts with, whatever the base name. -/
def opening (rule : Rule) : Text :=
  match rule.edit with
  | .constant text => text
  | .statement keyword _ _ => keyword
  | .groupNumber _ _ => []

theorem opening_prefix_replacement (rule : Rule) (base : Text) :
    rule.opening <+: rule.replacement base := by
  unfold opening replacement edited?
  cases rule.edit with
  | constant text => exact List.prefix_rfl
  | statement keyword extension blankAfter =>
    simp only [Edit.edited?, Option.getD_some, List.append_assoc]
    exact List.prefix_append _ _
  | groupNumber token number => exact List.nil_prefix

/-- A whole-line rule fires on what it writes. -/
theorem trigger_infix_replacement {rule : Rule} (h : rule ∈ wholeLineRules) (base : Text) :
    rule.trigger <:+: rule.replacement base := by
  have htable : ∀ rule ∈ wholeLineRules, rule.opening.includes rule.trigger = true := by
    decide +kernel
  have hopening := Text.includes_iff.1 (htable rule h)
  exact hopening.trans (rule.opening_prefix_replacement base).isInfix

/-- **The rule passes over what an earlier one writes**: its trigger does not stand there. With a
base name between keyword and extension that is only said of `Merge`. -/
def passesOver (rule earlier : Rule) : Bool :=
  match earlier.edit with
  | .constant text => !text.includes rule.trigger
  | .statement keyword extension _ =>
    rule.trigger = "Merge".toList && !keyword.includes "Merge".toList &&
      !extension.includes "Merge".toList
  | .groupNumber _ _ => false

theorem passesOver_of_later :
    wholeLineRules.Pairwise fun earlier rule => rule.passesOver earlier = true := by
  decide +kernel

/-- In a statement `Merge` can only come from the base name, besides the keyword and the
extension. -/
theorem not_merge_infix_replacement {rule : Rule} {keyword extension : Text} {blankAfter : Bool}
    (hedit : rule.edit = .statement keyword extension blankAfter)
    (hkeyword : ¬ "Merge".toList <:+: keyword) (hextension : ¬ "Merge".toList <:+: extension)
    {base : Text} (hbase : ¬ "Merge".toList <:+: base) :
    ¬ "Merge".toList <:+: rule.replacement base := by
  have hline : rule.replacement base = keyword ++ ' ' :: ([] ++ '"' :: (base ++ '.' ::
      (extension ++ '"' :: ([] ++ ';' :: if blankAfter then ['\n'] else [])))) := by
    simp [replacement, edited?, hedit, Edit.edited?]
  have hend : ¬ "Merge".toList <:+: if blankAfter then ['\n'] else [] := by
    cases blankAfter <;> decide
  rw [hline]
  intro hin
  -- none of the characters between the parts stands in `Merge`
  rcases Text.infix_append_cons_of_notMem (by decide) hin with hin | hin
  · exact hkeyword hin
  rcases Text.infix_append_cons_of_notMem (by decide) hin with hin | hin
  · exact absurd hin (by decide)
  rcases Text.infix_append_cons_of_notMem (by decide) hin with hin | hin
  · exact hbase hin
  rcases Text.infix_append_cons_of_notMem (by decide) hin with hin | hin
  · exact hextension hin
  rcases Text.infix_append_cons_of_notMem (by decide) hin with hin | hin
  · exact absurd hin (by decide)
  · exact hend hin

/-- **A whole-line rule decides the line that it has written**, if the base name does not hold
`Merge`. -/
theorem deciding?_replacement {rule : Rule} (h : rule ∈ wholeLineRules) {base : Text}
    (hbase : ¬ "Merge".toList <:+: base) : deciding? (rule.replacement base) = some rule := by
  obtain ⟨front, back, htable⟩ := List.append_of_mem h
  have hlater := passesOver_of_later
  rw [htable, List.pairwise_append, List.pairwise_cons] at hlater
  refine deciding?_eq_some htable (trigger_infix_replacement h base) ?_
  intro later hmem
  have hpasses := hlater.2.1.1 later hmem
  unfold passesOver at hpasses
  cases hedit : rule.edit with
  | constant text =>
    rw [hedit] at hpasses
    have hwrites : rule.replacement base = text := by
      rw [replacement, edited?, hedit]
      rfl
    rw [hwrites, ← Text.includes_iff, Bool.not_eq_true]
    simpa using hpasses
  | statement keyword extension blankAfter =>
    rw [hedit] at hpasses
    simp only [Bool.and_eq_true, Bool.not_eq_true', decide_eq_true_eq, ← Bool.not_eq_true,
      Text.includes_iff] at hpasses
    obtain ⟨⟨htrigger, hkeyword⟩, hextension⟩ := hpasses
    rw [htrigger]
    exact not_merge_infix_replacement hedit hkeyword hextension hbase
  | groupNumber token number => simp [hedit] at hpasses

/-! ## Numbers in a line -/

/-- A number completes no trigger of a whole-line rule. -/
theorem disjoint_digits_trigger {group whole : Rule} (hgroup : group ∈ groupRules)
    (hwhole : whole ∈ wholeLineRules) : List.Disjoint group.digits whole.trigger := by
  have hdigits : ∀ group ∈ groupRules,
      group.digits.all (['1', '2', '4', '9'].contains ·) = true := by
    decide
  have htriggers : ∀ whole ∈ wholeLineRules,
      whole.trigger.any (['1', '2', '4', '9'].contains ·) = false := by
    decide
  intro c hc hmem
  have hdigit := List.all_eq_true.1 (hdigits group hgroup) c hc
  exact List.any_eq_false.1 (htriggers whole hwhole) c hmem hdigit

/-- Group rules bring a line under no whole-line rule. -/
theorem deciding?_applyAll {rules : List Rule} (hrules : rules ⊆ groupRules) {base line : Text}
    (h : deciding? line = none) : deciding? (applyAll base rules line) = none := by
  rw [deciding?_eq_none_iff] at h ⊢
  intro whole hwhole hin
  exact h whole hwhole
    (infix_of_applyAll hrules (fun _ hgroup => disjoint_digits_trigger hgroup hwhole) hin)

/-! ## Settled lines -/

/-- **A settled line**: no group token is quoted in it, and if a whole-line rule decides it, then it
is what that rule writes. -/
structure Settled (base line : Text) : Prop where
  noToken : ∀ group ∈ groupRules, ¬ group.quoted <:+: line
  written : ∀ rule, deciding? line = some rule → line = rule.replacement base

/-- **What the rules leave is settled.** -/
theorem settled_editLine {base : Text} (hquote : '"' ∉ base) (hmerge : ¬ "Merge".toList <:+: base)
    (line : Text) : Settled base (editLine base line) where
  noToken _ hgroup := not_quoted_infix_editLine hquote hgroup line
  written := by
    intro rule hrule
    cases hdeciding : deciding? line with
    | some decider =>
      have hmem : decider ∈ wholeLineRules :=
        List.mem_reverse.1 (List.mem_of_find?_eq_some hdeciding)
      rw [editLine_of_deciding hquote hdeciding] at hrule ⊢
      rw [deciding?_replacement hmem hmerge] at hrule
      rw [Option.some.inj hrule]
    | none =>
      rw [editLine_of_undecided hdeciding, ← applyAll_groupRules base,
        deciding?_applyAll (List.Subset.refl _) hdeciding] at hrule
      cases hrule

/-- **The rules leave a settled line as it is.** -/
theorem Settled.editLine_eq {base line : Text} (hquote : '"' ∉ base) (h : Settled base line) :
    editLine base line = line := by
  cases hdeciding : deciding? line with
  | some rule => rw [editLine_of_deciding hquote hdeciding, ← h.written rule hdeciding]
  | none =>
    rw [editLine_of_undecided hdeciding, ← applyAll_groupRules base,
      applyAll_eq_self (List.Subset.refl _) h.noToken]

/-- Where no group token is quoted, no group rule edits, whatever whole-line rules do before. -/
theorem notMem_effective_of_noToken {base : Text} (hquote : '"' ∉ base) {rules : List Rule}
    (hrules : rules ⊆ table) {current : Text}
    (h : ∀ group ∈ groupRules, ¬ group.quoted <:+: current) {group : Rule}
    (hgroup : group ∈ groupRules) : group ∉ effective base rules current := by
  induction rules generalizing current with
  | nil => exact List.not_mem_nil
  | cons rule rules ih =>
    have hrest : rules ⊆ table := fun _ hmem => hrules (List.mem_cons_of_mem rule hmem)
    rw [effective_cons, List.mem_append, not_or]
    rcases mem_wholeLineRules_or (hrules List.mem_cons_self) with hrule | hrule
    · have hreplaces := replacesLine_of_mem hrule
      rw [edited?_of_replacesLine hreplaces, Option.isSome_some, if_pos rfl, Option.getD_some]
      refine ⟨?_, ih hrest fun _ hother => not_quoted_infix_replacement hrule hother hquote⟩
      intro hmem
      rw [List.mem_singleton.1 hmem] at hgroup
      simp [groupRules, hreplaces] at hgroup
    · have habsent : current.includes rule.quoted = false := by
        rw [← Bool.not_eq_true, Text.includes_iff]
        exact h rule hrule
      rw [isSome_edited?_groupRule hrule, habsent, getD_edited?_groupRule hrule,
        Text.replaceAll_eq_self (h rule hrule)]
      exact ⟨List.not_mem_nil, ih hrest h⟩

end Rule

/-! ## The stage, twice -/

/-- **A second run changes nothing.** On a script of one line, with a base name that holds neither a
quote nor `Merge`, the stage gives one line again; the stage once more gives that line as it is, and
then no group rule has an entry in the tally. -/
theorem substitute_twice {base : Text} (hquote : '"' ∉ base) (hmerge : ¬ "Merge".toList <:+: base)
    (line : Text) :
    ∃ once twice, ((substitute base).run ⟨[line]⟩).outcome = .ok once ∧
      once.script.lines.length = 1 ∧
      ((substitute base).run once.script).outcome = .ok twice ∧
      twice.script = once.script ∧
      ∀ name ∈ ["wall-group".toList, "symmetry-group".toList, "farfield-group".toList,
          "interior-group".toList, "volume-group".toList],
        twice.edits.entries.lookup name = none := by
  have hsettled := Rule.settled_editLine hquote hmerge line
  have hnames : ["wall-group".toList, "symmetry-group".toList, "farfield-group".toList,
      "interior-group".toList, "volume-group".toList] = Rule.groupRules.map (·.name) := by
    decide
  refine ⟨_, _, substitute_singleton base line, rfl, substitute_singleton base _, ?_, ?_⟩
  · simp only [hsettled.editLine_eq hquote]
  · rw [hnames]
    intro name hname
    obtain ⟨group, hgroup, rfl⟩ := List.mem_map.1 hname
    have hediting : group ∉ Rule.editing base (Rule.editLine base line) :=
      Rule.notMem_effective_of_noToken hquote (List.filter_subset_self _) hsettled.noToken hgroup
    rw [Tally.lookup_ofNames, if_neg]
    rwa [Rule.name_mem_map_iff (Rule.editing_sublist base _).subset
      (List.mem_of_mem_filter hgroup)]

/-- With `Merge` in the base name the second run finds another rule than the first. -/
example : Rule.editLine "Merge".toList "Save".toList = "Save \"Merge.msh\";".toList ∧
    Rule.editLine "Merge".toList "Save \"Merge.msh\";".toList =
      "Merge \"Merge.brep\";\n".toList := by
  decide +kernel

/-- The base name holds the triggers of an earlier whole-line rule and of a group rule. Both fire in
the second run only. -/
theorem substitute_twice_sample :
    '"' ∉ "ElementOrder mg_wall".toList ∧ ¬ "Merge".toList <:+: "ElementOrder mg_wall".toList ∧
      ∃ once twice,
        ((substitute "ElementOrder mg_wall".toList).run ⟨["Save \"a.unv\";".toList]⟩).outcome =
          .ok once ∧
        once.script = ⟨["Save \"ElementOrder mg_wall.msh\";".toList]⟩ ∧
        ((substitute "ElementOrder mg_wall".toList).run once.script).outcome = .ok twice ∧
        twice.script = once.script ∧ twice.edits.entries.lookup "wall-group".toList = none := by
  have hquote : '"' ∉ "ElementOrder mg_wall".toList := by decide
  have hmerge : ¬ "Merge".toList <:+: "ElementOrder mg_wall".toList := by
    rw [← Text.includes_iff]
    decide +kernel
  obtain ⟨once, twice, honce, -, htwice, hsame, hnone⟩ :=
    substitute_twice hquote hmerge "Save \"a.unv\";".toList
  refine ⟨hquote, hmerge, once, twice, honce, ?_, htwice, hsame,
    hnone _ List.mem_cons_self⟩
  have hedited : Rule.editLine "ElementOrder mg_wall".toList "Save \"a.unv\";".toList =
      "Save \"ElementOrder mg_wall.msh\";".toList := by
    decide +kernel
  rw [substitute_singleton, hedited] at honce
  rw [← Except.ok.inj honce]

end MeshScript
