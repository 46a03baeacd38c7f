import MeshScript.Proofs.Substitution.LineByLine
import MeshScript.Proofs.Text.Lines
/-!
# MeshScript.Proofs.Substitution.LastRule -- which rule decides a line

The table has two halves. The first six rules write a whole line; what they write does not
depend on the line, so of those that fire only the last one shows. The other five replace
quoted group tokens by numbers. They see what is left of the tokens: all of them if no
whole-line rule fired, none behind a whole-line rule as long as the base name holds no
quote.

`deciding?` is the last whole-line rule that fires. `editLine_of_deciding` says what the
fold over the eleven rules makes of a line that has one, and `editLine_of_undecided` what
it makes of a line that has none.
-/

namespace MeshScript

namespace Rule

/-! ## The two halves of the table -/

/-- The rule writes a whole line. -/
def replacesLine (rule : Rule) : Bool :=
  match rule.edit with
  | .constant _ | .statement _ _ _ => true
  | .groupNumber _ _ => false

/-- The rules that write a whole line, in table order. -/
def wholeLineRules : List Rule :=
  table.filter replacesLine

theorem replacesLine_of_mem {rule : Rule} (h : rule ∈ wholeLineRules) : rule.replacesLine :=
  (List.mem_filter.1 h).2

example : wholeLineRules.map (·.name) =
    [ "mesh-format".toList, "algorithm-2d".toList, "algorithm-3d".toList,
      "element-order".toList, "save".toList, "merge".toList ] := by
  decide

/-- The rules that number a group, in table order. -/
def groupRules : List Rule :=
  table.filter (!·.replacesLine)

theorem table_eq_append : table = wholeLineRules ++ groupRules := by
  decide

theorem firing_eq_append (line : Text) :
    firing line = wholeLineRules.filter (·.firesOn line) ++ groupRules.filter (·.firesOn line) := by
  rw [firing, table_eq_append, List.filter_append]

theorem applyAll_append (base : Text) (front back : List Rule) (line : Text) :
    applyAll base (front ++ back) line = applyAll base back (applyAll base front line) :=
  List.foldl_append

/-! ## Whole-line rules -/

/-- What a whole-line rule writes. -/
def replacement (rule : Rule) (base : Text) : Text :=
  (rule.edited? [] base).getD []

theorem edited?_of_replacesLine {rule : Rule} (h : rule.replacesLine) (current base : Text) :
    rule.edited? current base = some (rule.replacement base) := by
  unfold replacesLine at h
  unfold replacement edited?
  cases hedit : rule.edit with
  | constant text => rfl
  | statement keyword extension blankAfter => rfl
  | groupNumber token number => simp [hedit] at h

/-- Behind a whole-line rule nothing is left of the line. -/
theorem applyAll_congr_of_any_replacesLine {rules : List Rule} (h : rules.any replacesLine)
    (base line other : Text) : applyAll base rules line = applyAll base rules other := by
  induction rules generalizing line other with
  | nil => simp at h
  | cons rule rules ih =>
    by_cases hrule : rule.replacesLine
    · simp only [applyAll, List.foldl_cons, edited?_of_replacesLine hrule, Option.getD_some]
    · simp only [List.any_cons, hrule, Bool.false_or] at h
      exact ih h _ _

/-- Of several whole-line rules only the last one shows. -/
theorem applyAll_filter_of_replacesLine {rules : List Rule}
    (h : ∀ rule ∈ rules, rule.replacesLine) (fires : Rule → Bool) (base line : Text) :
    applyAll base (rules.filter fires) line =
      ((rules.reverse.find? fires).map (·.replacement base)).getD line := by
  induction rules using List.reverseRecOn with
  | nil => rfl
  | append_singleton rules rule ih =>
    have ih := ih fun other hmem => h other (List.mem_append_left _ hmem)
    have hrule := h rule (by simp)
    rw [List.filter_append, applyAll_append, List.reverse_append, List.reverse_singleton,
      List.singleton_append]
    by_cases hfires : fires rule
    · simp [hfires, applyAll, edited?_of_replacesLine hrule]
    · have hfilter : [rule].filter fires = [] := by simp [hfires]
      rw [hfilter, List.find?_cons_of_neg hfires]
      exact ih

/-- **The rule that decides a line**: the last whole-line rule that fires on it. -/
def deciding? (line : Text) : Option Rule :=
  wholeLineRules.reverse.find? (·.firesOn line)

/-- **The rules on a line**: what the deciding rule writes, or the line if there is none, is given
to the group rules that fire on the line. -/
theorem editLine_eq_applyAll (base line : Text) :
    editLine base line = applyAll base (groupRules.filter (·.firesOn line))
      (((deciding? line).map (·.replacement base)).getD line) := by
  rw [editLine, firing_eq_append, applyAll_append,
    applyAll_filter_of_replacesLine fun _ => replacesLine_of_mem, deciding?]

/-! ## Group rules -/

/-- The number that a group rule writes, in digits. -/
def digits (rule : Rule) : Text :=
  match rule.edit with
  | .groupNumber _ number => Nat.toDigits 10 number
  | .constant _ | .statement _ _ _ => []

/-- The token of a group rule between quotes. -/
def quoted (rule : Rule) : Text :=
  Edit.quote rule.trigger

/-- A group rule numbers the very token that triggers it. -/
theorem exists_edit_eq_groupNumber {rule : Rule} (h : rule ∈ groupRules) :
    ∃ number, rule.edit = .groupNumber rule.trigger number := by
  have hedit : ∀ rule ∈ groupRules, rule.edit = .groupNumber rule.trigger
      (match rule.edit with | .groupNumber _ number => number | _ => 0) := by decide
  exact ⟨_, hedit rule h⟩

/-- A group rule writes its number over its quoted token, if that is there, and leaves the
line as it is otherwise; both are a replacement. -/
theorem getD_edited?_groupRule {rule : Rule} (h : rule ∈ groupRules) (current base : Text) :
    (rule.edited? current base).getD current = current.replaceAll rule.quoted rule.digits := by
  obtain ⟨number, hnumber⟩ := exists_edit_eq_groupNumber h
  unfold edited? quoted digits
  rw [hnumber]
  simp only [Edit.edited?]
  by_cases hin : current.includes (Edit.quote rule.trigger)
  · rw [if_pos hin, Option.getD_some]
  · rw [if_neg hin, Option.getD_none, Text.replaceAll_eq_self]
    rwa [← Text.includes_iff]

/-- Without its quoted token a group rule leaves the line as it is. -/
theorem applyAll_eq_self {rules : List Rule} (hrules : rules ⊆ groupRules) {current : Text}
    (h : ∀ rule ∈ rules, ¬ rule.quoted <:+: current) (base : Text) :
    applyAll base rules current = current := by
  induction rules with
  | nil => rfl
  | cons rule rules ih =>
    have hsame : (rule.edited? current base).getD current = current := by
      rw [getD_edited?_groupRule (hrules List.mem_cons_self),
        Text.replaceAll_eq_self (h rule List.mem_cons_self)]
    have ih := ih (fun other hmem => hrules (List.mem_cons_of_mem _ hmem))
      (fun other hmem => h other (List.mem_cons_of_mem _ hmem))
    show applyAll base rules ((rule.edited? current base).getD current) = current
    rw [hsame, ih]

theorem quoted_ne_nil (rule : Rule) : rule.quoted ≠ [] :=
  List.cons_ne_nil _ _

theorem digits_ne_nil {rule : Rule} (h : rule ∈ groupRules) : rule.digits ≠ [] := by
  have hall : ∀ rule ∈ groupRules, rule.digits ≠ [] := by decide
  exact hall rule h

/-- A number has only digits and a quoted token has none. -/
theorem disjoint_digits_quoted {rule other : Rule} (h : rule ∈ groupRules)
    (hother : other ∈ groupRules) : List.Disjoint rule.digits other.quoted := by
  have hdigits : ∀ rule ∈ groupRules, rule.digits.all Char.isDigit = true := by decide
  have hquoted : ∀ other ∈ groupRules, other.quoted.any Char.isDigit = false := by decide
  intro c hc hmem
  have hdigit := List.all_eq_true.1 (hdigits rule h) c hc
  exact List.any_eq_false.1 (hquoted other hother) c hmem hdigit

/-- Numbering a group brings nothing into the line that has no digit of the number. -/
theorem infix_of_edited {rule : Rule} (h : rule ∈ groupRules) {found : Text}
    (hd : List.Disjoint rule.digits found) {current base : Text}
    (hin : found <:+: (rule.edited? current base).getD current) : found <:+: current := by
  rw [getD_edited?_groupRule h] at hin
  exact Text.infix_of_infix_replaceAll rule.quoted_ne_nil (digits_ne_nil h) hd hin

/-- Numbering one group brings no quoted token of any group into the line. -/
theorem quoted_infix_of_edited {rule other : Rule} (h : rule ∈ groupRules)
    (hother : other ∈ groupRules) {current base : Text}
    (hin : other.quoted <:+: (rule.edited? current base).getD current) :
    other.quoted <:+: current :=
  infix_of_edited h (disjoint_digits_quoted h hother) hin

/-- Group rules bring nothing into a line that has no digit of their numbers. -/
theorem infix_of_applyAll {rules : List Rule} (hrules : rules ⊆ groupRules) {found : Text}
    (hd : ∀ rule ∈ groupRules, List.Disjoint rule.digits found) {base current : Text}
    (hin : found <:+: applyAll base rules current) : found <:+: current := by
  induction rules generalizing current with
  | nil => exact hin
  | cons rule rules ih =>
    have hrule : rule ∈ groupRules := hrules List.mem_cons_self
    have hnext : found <:+: (rule.edited? current base).getD current :=
      ih (fun _ hmem => hrules (List.mem_cons_of_mem rule hmem)) hin
    exact infix_of_edited hrule (hd rule hrule) hnext

/-- A group rule that does not fire finds nothing to replace, so all group rules may be
applied as well as those that fire. -/
theorem applyAll_filter_groupRules {rules : List Rule} (hrules : rules ⊆ groupRules)
    {fires : Rule → Bool} (base : Text) {current : Text}
    (h : ∀ rule ∈ rules, rule.quoted <:+: current → fires rule) :
    applyAll base (rules.filter fires) current = applyAll base rules current := by
  induction rules generalizing current with
  | nil => rfl
  | cons rule rules ih =>
    have hrule : rule ∈ groupRules := hrules List.mem_cons_self
    have hrest : rules ⊆ groupRules := fun other hmem => hrules (List.mem_cons_of_mem _ hmem)
    -- a token that is there after this rule was there before it, so its rule fired
    have hstep : applyAll base (rules.filter fires) ((rule.edited? current base).getD current) =
        applyAll base rules ((rule.edited? current base).getD current) :=
      ih hrest fun other hmem hin => h other (List.mem_cons_of_mem _ hmem)
        (quoted_infix_of_edited hrule (hrest hmem) hin)
    by_cases hfires : fires rule
    · rw [List.filter_cons_of_pos hfires]
      exact hstep
    · have hsame : (rule.edited? current base).getD current = current := by
        rw [getD_edited?_groupRule hrule]
        exact Text.replaceAll_eq_self (fun hin => hfires (h rule List.mem_cons_self hin)) _
      rw [List.filter_cons_of_neg hfires]
      rw [hsame] at hstep
      show applyAll base (rules.filter fires) current =
        applyAll base rules ((rule.edited? current base).getD current)
      rw [hsame, hstep]

/-- A line with numbers for all quoted group tokens. -/
theorem applyAll_groupRules (base line : Text) :
    applyAll base groupRules line =
      groupRules.foldl (fun current rule => current.replaceAll rule.quoted rule.digits) line := by
  apply List.foldl_ext
  intro current rule hmem
  exact getD_edited?_groupRule hmem current base

/-! ## Characters that group rules pass over -/

/-- **A neutral character** stands in no quoted token and in no number. -/
def Neutral (c : Char) : Prop :=
  ∀ rule ∈ groupRules, c ∉ rule.quoted ∧ c ∉ rule.digits

instance : DecidablePred Neutral := fun c =>
  inferInstanceAs (Decidable (∀ rule ∈ groupRules, c ∉ rule.quoted ∧ c ∉ rule.digits))

/-- The characters that end a line, and the braces around a surface list. -/
theorem neutral_of_mem : ∀ c ∈ ['\n', '\r', '\x7b', '\x7d'], Neutral c := by
  -- these four are tried, not all characters
  have hall : ['\n', '\r', '\x7b', '\x7d'].all (fun c => decide (Neutral c)) = true := by decide
  intro c hmem
  exact of_decide_eq_true (List.all_eq_true.1 hall c hmem)

/-- One group rule on a line. -/
theorem applyAll_cons_groupRule {rule : Rule} (h : rule ∈ groupRules) (base : Text)
    (rules : List Rule) (current : Text) :
    applyAll base (rule :: rules) current =
      applyAll base rules (current.replaceAll rule.quoted rule.digits) := by
  rw [← getD_edited?_groupRule h current base]
  rfl

/-- **Group rules edit a line part by part**, if it is cut at a neutral character. -/
theorem applyAll_append_cons {rules : List Rule} (hrules : rules ⊆ groupRules) {c : Char}
    (hc : Neutral c) (base front back : Text) :
    applyAll base rules (front ++ c :: back) =
      applyAll base rules front ++ c :: applyAll base rules back := by
  induction rules generalizing front back with
  | nil => rfl
  | cons rule rules ih =>
    have hmem : rule ∈ groupRules := hrules List.mem_cons_self
    have hrest : rules ⊆ groupRules := fun _ hin => hrules (List.mem_cons_of_mem rule hin)
    simp only [applyAll_cons_groupRule hmem]
    rw [Text.replaceAll_append_cons (hc rule hmem).1, ih hrest]

/-- **Group rules keep the count** of a neutral character. -/
theorem count_applyAll {rules : List Rule} (hrules : rules ⊆ groupRules) {c : Char}
    (hc : Neutral c) (base line : Text) :
    (applyAll base rules line).count c = line.count c := by
  induction rules generalizing line with
  | nil => rfl
  | cons rule rules ih =>
    have hmem : rule ∈ groupRules := hrules List.mem_cons_self
    rw [applyAll_cons_groupRule hmem, ih fun _ hin => hrules (List.mem_cons_of_mem rule hin),
      Text.count_replaceAll (hc rule hmem).1 (hc rule hmem).2]

theorem mem_applyAll_iff {rules : List Rule} (hrules : rules ⊆ groupRules) {c : Char}
    (hc : Neutral c) {base line : Text} : c ∈ applyAll base rules line ↔ c ∈ line := by
  rw [← List.count_pos_iff, count_applyAll hrules hc, List.count_pos_iff]

/-! ## What a whole-line rule leaves for the group rules -/

/-- The part of what a whole-line rule writes that does not come from the base name. -/
def fixedText (rule : Rule) : Text :=
  match rule.edit with
  | .constant text => text
  | .statement keyword extension _ => keyword ++ extension
  | .groupNumber _ _ => []

/-- What a whole-line rule writes holds no quoted token, if the base name brings no quote. -/
theorem not_quoted_infix_replacement {rule group : Rule} (h : rule ∈ wholeLineRules)
    (hgroup : group ∈ groupRules) {base : Text} (hbase : '"' ∉ base) :
    ¬ group.quoted <:+: rule.replacement base := by
  have htokens : ∀ group ∈ groupRules, '"' ∉ group.trigger ∧ '.' ∉ group.trigger := by decide
  have hfixed : ∀ rule ∈ wholeLineRules, '"' ∉ rule.fixedText := by decide
  have hrule := hfixed rule h
  have hreplaces := replacesLine_of_mem h
  obtain ⟨hquote, hdot⟩ := htokens group hgroup
  intro hin
  unfold replacement edited? at hin
  unfold fixedText at hrule
  cases hedit : rule.edit with
  | constant text =>
    rw [hedit] at hrule hin
    exact hrule (hin.subset List.mem_cons_self)
  | statement keyword extension blankAfter =>
    rw [hedit] at hrule hin
    simp only [List.mem_append, not_or] at hrule
    -- the statement has two quotes, with the file name between them
    have hmiddle : group.trigger = base ++ '.' :: extension := by
      have hfront : '"' ∉ keyword ++ [' '] := by simp [hrule.1]
      have hname : '"' ∉ base ++ '.' :: extension := by simp [hbase, hrule.2]
      have hback : '"' ∉ ';' :: if blankAfter then ['\n'] else [] := by cases blankAfter <;> simp
      refine Text.eq_of_quoted_infix hfront hname hback hquote ?_
      simpa [Edit.edited?, quoted, Edit.quote] using hin
    exact hdot (hmiddle ▸ by simp)
  | groupNumber token number => simp [replacesLine, hedit] at hreplaces

/-- **A line on which a whole-line rule fires** is what the last such rule writes. -/
theorem editLine_of_deciding {line base : Text} (hbase : '"' ∉ base) {rule : Rule}
    (h : deciding? line = some rule) : editLine base line = rule.replacement base := by
  have hmem : rule ∈ wholeLineRules := List.mem_reverse.1 (List.mem_of_find?_eq_some h)
  rw [editLine_eq_applyAll, h, Option.map_some, Option.getD_some]
  -- the group rules that fired find nothing any more
  refine applyAll_eq_self (fun group hgroup => List.mem_of_mem_filter hgroup) ?_ base
  intro group hgroup
  exact not_quoted_infix_replacement hmem (List.mem_of_mem_filter hgroup) hbase

/-- A line on which no whole-line rule fires has its group tokens numbered. -/
theorem editLine_of_undecided {line : Text} (h : deciding? line = none) (base : Text) :
    editLine base line =
      groupRules.foldl (fun current rule => current.replaceAll rule.quoted rule.digits) line := by
  rw [editLine_eq_applyAll, h, Option.map_none, Option.getD_none,
    applyAll_filter_groupRules (List.Subset.refl _), applyAll_groupRules]
  intro rule _ hin
  have hin' : rule.trigger <:+: line := List.IsInfix.trans ⟨['"'], ['"'], rfl⟩ hin
  exact Text.includes_iff.2 hin'

end Rule
end MeshScript
