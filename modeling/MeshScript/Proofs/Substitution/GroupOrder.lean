import MeshScript.Proofs.Substitution.Edits
import MeshScript.Proofs.Substitution.Tokens
/-!
# MeshScript.Proofs.Substitution.GroupOrder -- the group rules in any order

The five group rules go over a line one after the other, and the table fixes the order. It matters
where two different quoted tokens share a quote: the rule that comes first takes the quote away, and
the other token is then no longer quoted. Anywhere else it does not. Quotes stand only at the ends
of a quoted token, so two of them that share no quote do not overlap, and numbering one passes
over the other as it stands.

`SharesNoQuote` is the condition, in positions on the line. What the proofs use of it is that no
token `Touches` another one (`NoneTouch`): this is a condition on substrings, so it is kept when a
group is numbered. From there two rules commute (`replaceAll_comm`), hence any permutation gives the
same line (`applyAll_perm`), and a rule edits the line exactly if its quoted token stood there at
the start (`mem_effective_iff`).
-/

namespace MeshScript

namespace Rule

/-! ## Quotes that are shared -/

/-- The positions at which the quoted token of the rule starts in the line. Occurrences may
overlap. -/
def places (rule : Rule) (line : Text) : List Nat :=
  (List.range line.length).filter fun i => rule.quoted.isPrefixOf (line.drop i)

/-- The positions of the two quotes around the token, for an occurrence that starts at `i`. -/
def quotesAt (rule : Rule) (i : Nat) : List Nat :=
  [i, i + rule.trigger.length + 1]

/-- **No quote is shared** by occurrences of two different quoted tokens. -/
def SharesNoQuote (line : Text) : Prop :=
  ∀ first ∈ groupRules, ∀ second ∈ groupRules, first ≠ second →
    ∀ i ∈ first.places line, ∀ j ∈ second.places line,
      ∀ quote ∈ first.quotesAt i, quote ∉ second.quotesAt j

instance : DecidablePred SharesNoQuote := fun line =>
  inferInstanceAs (Decidable (∀ first ∈ groupRules, ∀ second ∈ groupRules, first ≠ second →
    ∀ i ∈ first.places line, ∀ j ∈ second.places line,
      ∀ quote ∈ first.quotesAt i, quote ∉ second.quotesAt j))

theorem mem_places_of_eq {rule : Rule} {front back : Text} :
    front.length ∈ rule.places (front ++ rule.quoted ++ back) := by
  have hpos : 0 < rule.quoted.length := List.length_pos_of_ne_nil rule.quoted_ne_nil
  rw [places, List.mem_filter, List.mem_range, List.isPrefixOf_iff_prefix, List.append_assoc,
    List.drop_left]
  refine ⟨?_, List.prefix_append _ _⟩
  rw [List.length_append, List.length_append]
  omega

/-- Two quoted tokens that touch: the quote between them is the end of one and the start of the
other. -/
def touching (first second : Rule) : Text :=
  '"' :: first.trigger ++ second.quoted

theorem touching_eq (first second : Rule) :
    touching first second = first.quoted ++ second.trigger ++ ['"'] := by
  simp [touching, quoted, Edit.quote]

/-- **No two different quoted tokens touch** in the line. -/
def NoneTouch (line : Text) : Prop :=
  ∀ first ∈ groupRules, ∀ second ∈ groupRules, first ≠ second →
    ¬ touching first second <:+: line

theorem SharesNoQuote.noneTouch {line : Text} (h : SharesNoQuote line) : NoneTouch line := by
  intro first hfirst second hsecond hne ⟨front, back, hline⟩
  have hplace : front.length ∈ first.places line := by
    have hcut : front ++ first.quoted ++ (second.trigger ++ '"' :: back) = line := by
      rw [← hline, touching_eq]
      simp
    rw [← hcut]
    exact mem_places_of_eq
  have hplace' : (front ++ '"' :: first.trigger).length ∈ second.places line := by
    have hcut : front ++ '"' :: first.trigger ++ second.quoted ++ back = line := by
      rw [← hline, touching]
      simp
    rw [← hcut]
    exact mem_places_of_eq
  -- the end of the first token is the start of the second one
  refine h first hfirst second hsecond hne _ hplace _ hplace'
    (front.length + first.trigger.length + 1) (by simp [quotesAt]) ?_
  simp [quotesAt, Nat.add_assoc]

/-! ## Two group rules -/

theorem quote_notMem_trigger {rule : Rule} (h : rule ∈ groupRules) : '"' ∉ rule.trigger := by
  have hall : ∀ rule ∈ groupRules, '"' ∉ rule.trigger := by decide
  exact hall rule h

theorem quote_notMem_digits {rule : Rule} (h : rule ∈ groupRules) : '"' ∉ rule.digits := fun hmem =>
  disjoint_digits_quoted h h hmem List.mem_cons_self

theorem disjoint_digits_touching {rule first second : Rule} (h : rule ∈ groupRules)
    (hfirst : first ∈ groupRules) (hsecond : second ∈ groupRules) :
    List.Disjoint rule.digits (touching first second) := by
  intro c hc hmem
  rw [touching, List.mem_append] at hmem
  rcases hmem with hmem | hmem
  · exact disjoint_digits_quoted h hfirst hc (List.mem_append_left _ hmem)
  · exact disjoint_digits_quoted h hsecond hc hmem

/-- Numbering a group makes no tokens touch. -/
theorem NoneTouch.replaceAll {line : Text} (h : NoneTouch line) {rule : Rule}
    (hrule : rule ∈ groupRules) : NoneTouch (line.replaceAll rule.quoted rule.digits) := by
  intro first hfirst second hsecond hne hin
  exact h first hfirst second hsecond hne
    (Text.infix_of_infix_replaceAll rule.quoted_ne_nil (digits_ne_nil hrule)
      (disjoint_digits_touching hrule hfirst hsecond) hin)

/-- A quoted token and a text behind it, cut at the two quotes. -/
theorem quoted_append (rule : Rule) (rest : Text) :
    rule.quoted ++ rest = '"' :: (rule.trigger ++ '"' :: rest) := by
  simp [quoted, Edit.quote]

/-- No quoted token starts at the closing quote of another one that it does not touch. -/
theorem not_quoted_prefix_cons {first second : Rule} {rest : Text}
    (h : ¬ touching first second <:+: first.quoted ++ rest) : ¬ second.quoted <+: '"' :: rest := by
  rintro ⟨tail, htail⟩
  refine h (List.IsPrefix.isInfix ⟨tail, ?_⟩)
  rw [touching, List.append_assoc, htail, quoted_append, List.cons_append]

/-- One of two groups is numbered at the start of the text, the other one from there on. -/
theorem replaceAll_replaceAll_quoted_append {first : Rule} (hfirst : first ∈ groupRules)
    (second : Rule) (rest : Text) :
    ((first.quoted ++ rest).replaceAll first.quoted first.digits).replaceAll second.quoted
        second.digits =
      first.digits ++
        (rest.replaceAll first.quoted first.digits).replaceAll second.quoted second.digits := by
  rw [Text.replaceAll_append first.quoted_ne_nil]
  exact Text.replaceAll_append_of_notMem (quote_notMem_digits hfirst) _ _ _

section Two

variable {first second : Rule} (hfirst : first ∈ groupRules) (hsecond : second ∈ groupRules)
  (hne : first ≠ second)

include hfirst hsecond hne

/-- Where one quoted token starts no other one does. -/
theorem not_quoted_prefix (rest : Text) : ¬ second.quoted <+: first.quoted ++ rest := by
  have htriggers : ∀ first ∈ groupRules, ∀ second ∈ groupRules,
      second.trigger = first.trigger → first = second := by
    decide
  rintro ⟨tail, htail⟩
  rw [quoted_append, quoted_append, List.cons.injEq] at htail
  exact hne (htriggers first hfirst second hsecond (Text.append_cons_inj_of_first
    (quote_notMem_trigger hsecond) (quote_notMem_trigger hfirst) htail.2).1)

/-- **One group is numbered behind the quoted token of another one**, which stays as it is. -/
theorem replaceAll_quoted_append {rest : Text}
    (h : ¬ touching first second <:+: first.quoted ++ rest) :
    (first.quoted ++ rest).replaceAll second.quoted second.digits =
      first.quoted ++ rest.replaceAll second.quoted second.digits := by
  have hstart := not_quoted_prefix hfirst hsecond hne rest
  have hmiddle : (first.trigger ++ '"' :: rest).replaceAll second.quoted second.digits =
      first.trigger ++ Text.replaceAll ('"' :: rest) second.quoted second.digits :=
    Text.replaceAll_append_of_notMem (quote_notMem_trigger hfirst) _ _ _
  have hend := not_quoted_prefix_cons h
  rw [quoted_append] at hstart ⊢
  rw [Text.replaceAll_cons hstart, hmiddle, Text.replaceAll_cons hend, quoted_append]

/-- An occurrence of one quoted token is behind another one that starts the text. -/
theorem quoted_infix_of_quoted_append {rest : Text}
    (h : ¬ touching first second <:+: first.quoted ++ rest)
    (hin : second.quoted <:+: first.quoted ++ rest) : second.quoted <:+: rest := by
  have hstart := not_quoted_prefix hfirst hsecond hne rest
  have hend := not_quoted_prefix_cons h
  rw [quoted_append] at hstart hin
  have hmiddle : second.quoted <:+: '"' :: rest :=
    Text.cons_infix_of_infix_append (quote_notMem_trigger hfirst)
      ((List.infix_cons_iff.1 hin).resolve_left hstart)
  exact (List.infix_cons_iff.1 hmiddle).resolve_left hend

end Two

/-- **Two group rules commute** on a text in which their tokens do not touch. -/
theorem replaceAll_comm {first second : Rule} (hfirst : first ∈ groupRules)
    (hsecond : second ∈ groupRules) (hne : first ≠ second) {text : Text}
    (h : ¬ touching first second <:+: text) (h' : ¬ touching second first <:+: text) :
    (text.replaceAll first.quoted first.digits).replaceAll second.quoted second.digits =
      (text.replaceAll second.quoted second.digits).replaceAll first.quoted first.digits := by
  induction text using Text.scan_induction_two first.quoted_ne_nil second.quoted_ne_nil with
  | nil => simp only [Text.replaceAll_nil]
  | left rest ih =>
    have ih := ih (fun hin => h (List.infix_append_of_infix_right hin))
      (fun hin => h' (List.infix_append_of_infix_right hin))
    rw [replaceAll_replaceAll_quoted_append hfirst,
      replaceAll_quoted_append hfirst hsecond hne h, Text.replaceAll_append first.quoted_ne_nil, ih]
  | right rest ih =>
    have ih := ih (fun hin => h (List.infix_append_of_infix_right hin))
      (fun hin => h' (List.infix_append_of_infix_right hin))
    rw [replaceAll_replaceAll_quoted_append hsecond,
      replaceAll_quoted_append hsecond hfirst hne.symm h',
      Text.replaceAll_append second.quoted_ne_nil, ih]
  | other c rest hstart hstart' ih =>
    have ih := ih (fun hin => h (List.infix_cons hin)) (fun hin => h' (List.infix_cons hin))
    -- what starts the line after one replacement started it before
    have hstill : ¬ second.quoted <+: c :: Text.replaceAll rest first.quoted first.digits := by
      rw [← Text.replaceAll_cons hstart]
      exact fun hin => hstart' (Text.prefix_of_prefix_replaceAll first.quoted_ne_nil
        (digits_ne_nil hfirst) _ (disjoint_digits_quoted hfirst hsecond) hin)
    have hstill' : ¬ first.quoted <+: c :: Text.replaceAll rest second.quoted second.digits := by
      rw [← Text.replaceAll_cons hstart']
      exact fun hin => hstart (Text.prefix_of_prefix_replaceAll second.quoted_ne_nil
        (digits_ne_nil hsecond) _ (disjoint_digits_quoted hsecond hfirst) hin)
    rw [Text.replaceAll_cons hstart, Text.replaceAll_cons hstill, Text.replaceAll_cons hstart',
      Text.replaceAll_cons hstill', ih]

/-- **Numbering one group keeps the quoted tokens of another one**, where the two do not touch. -/
theorem quoted_infix_replaceAll_iff {first second : Rule} (hfirst : first ∈ groupRules)
    (hsecond : second ∈ groupRules) (hne : first ≠ second) {text : Text}
    (h : ¬ touching first second <:+: text) (h' : ¬ touching second first <:+: text) :
    second.quoted <:+: text.replaceAll first.quoted first.digits ↔ second.quoted <:+: text := by
  refine ⟨Text.infix_of_infix_replaceAll first.quoted_ne_nil (digits_ne_nil hfirst)
    (disjoint_digits_quoted hfirst hsecond), fun hin => ?_⟩
  induction text using Text.scan_induction_two first.quoted_ne_nil second.quoted_ne_nil with
  | nil => exact absurd (List.infix_nil.1 hin) second.quoted_ne_nil
  | left rest ih =>
    have hrest := quoted_infix_of_quoted_append hfirst hsecond hne h hin
    rw [Text.replaceAll_append first.quoted_ne_nil]
    exact List.infix_append_of_infix_right (ih (fun hin => h (List.infix_append_of_infix_right hin))
      (fun hin => h' (List.infix_append_of_infix_right hin)) hrest)
  | right rest _ =>
    rw [replaceAll_quoted_append hsecond hfirst hne.symm h']
    exact (List.prefix_append _ _).isInfix
  | other c rest hstart hstart' ih =>
    have hrest := (List.infix_cons_iff.1 hin).resolve_left hstart'
    rw [Text.replaceAll_cons hstart]
    exact List.infix_cons (ih (fun hin => h (List.infix_cons hin))
      (fun hin => h' (List.infix_cons hin)) hrest)

/-! ## Permutations of the group rules -/

/-- **Group rules in any order** leave the same line, if no tokens touch in it. -/
theorem applyAll_perm {order order' : List Rule} (hperm : order.Perm order')
    (hgroups : order ⊆ groupRules) (base : Text) {line : Text} (h : NoneTouch line) :
    applyAll base order line = applyAll base order' line := by
  induction hperm generalizing line with
  | nil => rfl
  | cons rule hperm ih =>
    have hrule : rule ∈ groupRules := hgroups List.mem_cons_self
    rw [applyAll_cons_groupRule hrule, applyAll_cons_groupRule hrule]
    exact ih (fun _ hmem => hgroups (List.mem_cons_of_mem rule hmem)) (h.replaceAll hrule)
  | swap first second rules =>
    have hsecond : second ∈ groupRules := hgroups List.mem_cons_self
    have hfirst : first ∈ groupRules := hgroups (List.mem_cons_of_mem _ List.mem_cons_self)
    by_cases hne : first = second
    · rw [hne]
    · simp only [applyAll_cons_groupRule hfirst, applyAll_cons_groupRule hsecond]
      rw [replaceAll_comm hfirst hsecond hne (h first hfirst second hsecond hne)
        (h second hsecond first hfirst (Ne.symm hne))]
  | trans hperm _ ih ih' =>
    rw [ih hgroups h, ih' (fun _ hmem => hgroups (hperm.mem_iff.2 hmem)) h]

/-- **The rules that edit**, in whatever order they are given: those whose quoted token stands in
the line before any of them. -/
theorem mem_effective_iff {rules : List Rule} (hgroups : rules ⊆ groupRules) (base : Text)
    {line : Text} (h : NoneTouch line) {rule : Rule} (hrule : rule ∈ groupRules) :
    rule ∈ effective base rules line ↔ rule ∈ rules ∧ rule.quoted <:+: line := by
  induction rules generalizing line with
  | nil => simp [effective]
  | cons other rules ih =>
    have hother : other ∈ groupRules := hgroups List.mem_cons_self
    have ih := ih (fun _ hmem => hgroups (List.mem_cons_of_mem other hmem)) (h.replaceAll hother)
    rw [effective_cons, List.mem_append, isSome_edited?_groupRule hother,
      getD_edited?_groupRule hother, ih, List.mem_cons]
    by_cases hsame : other = rule
    · subst hsame
      -- behind its rule the token is gone
      have hgone := Text.not_infix_replaceAll other.quoted_ne_nil (digits_ne_nil hother)
        (disjoint_digits_quoted hother hother) line
      cases hin : line.includes other.quoted with
      | true => simp [Text.includes_iff.1 hin]
      | false =>
        have hnot : ¬ other.quoted <:+: line := by
          rw [← Text.includes_iff, hin]
          exact Bool.false_ne_true
        simp [hnot, hgone]
    · have hnone : rule ∉ if line.includes other.quoted = true then [other] else [] := by
        split <;> simp [Ne.symm hsame]
      rw [or_iff_right hnone, quoted_infix_replaceAll_iff hother hrule hsame
        (h other hother rule hrule hsame) (h rule hrule other hother (Ne.symm hsame)),
        or_iff_right (Ne.symm hsame)]

/-- Without a whole-line trigger only group rules fire. -/
theorem firing_of_plain {line : Text} (h : ∀ rule ∈ wholeLineRules, ¬ rule.trigger <:+: line) :
    firing line = groupRules.filter (·.firesOn line) := by
  have hnone : wholeLineRules.filter (·.firesOn line) = [] := by
    simpa only [List.filter_eq_nil_iff, firesOn, Text.includes_iff] using h
  rw [firing_eq_append, hnone, List.nil_append]

end Rule

/-- **The order of the group rules does not matter** on a line with no whole-line trigger in it, if
no quote is shared by two different quoted tokens. Whatever the order in which the five rules are
taken, those that fire on the line leave the same text, and the same ones of them edit it. Both are
what the stage shows for a script of that line: the line that it gives, and the names that have an
entry in its tally. -/
theorem groupRules_order {line : Text}
    (hplain : ∀ rule ∈ Rule.wholeLineRules, ¬ rule.trigger <:+: line)
    (hquotes : Rule.SharesNoQuote line) {order : List Rule} (horder : order.Perm Rule.groupRules)
    (base : Text) :
    Rule.applyAll base (order.filter (·.firesOn line)) line =
        Rule.applyAll base (Rule.groupRules.filter (·.firesOn line)) line ∧
      (∀ rule, rule ∈ Rule.effective base (order.filter (·.firesOn line)) line ↔
        rule ∈ Rule.effective base (Rule.groupRules.filter (·.firesOn line)) line) ∧
      ∃ edited, ((substitute base).run ⟨[line]⟩).outcome = .ok edited ∧
        edited.script.lines = [Rule.applyAll base (order.filter (·.firesOn line)) line] ∧
        ∀ rule ∈ Rule.table, (edited.edits.entries.lookup rule.name).isSome = true ↔
          rule ∈ Rule.effective base (order.filter (·.firesOn line)) line := by
  have hnone := hquotes.noneTouch
  have hperm := horder.filter (·.firesOn line)
  have htable : Rule.groupRules.filter (·.firesOn line) ⊆ Rule.groupRules :=
    List.filter_subset_self _
  have hsubset : order.filter (·.firesOn line) ⊆ Rule.groupRules := fun _ hmem =>
    htable (hperm.mem_iff.1 hmem)
  have hsame := Rule.applyAll_perm hperm hsubset base hnone
  have hedits : ∀ rule, rule ∈ Rule.effective base (order.filter (·.firesOn line)) line ↔
      rule ∈ Rule.effective base (Rule.groupRules.filter (·.firesOn line)) line := by
    intro rule
    by_cases hrule : rule ∈ Rule.groupRules
    · rw [Rule.mem_effective_iff hsubset base hnone hrule,
        Rule.mem_effective_iff htable base hnone hrule, hperm.mem_iff]
    · exact iff_of_false
        (fun hmem => hrule (hsubset ((Rule.effective_sublist base _ line).subset hmem)))
        (fun hmem => hrule (htable ((Rule.effective_sublist base _ line).subset hmem)))
  refine ⟨hsame, hedits, _, substitute_singleton base line, ?_, ?_⟩
  · rw [hsame, Rule.editLine, Rule.firing_of_plain hplain]
  · intro rule hrule
    have hentry : rule.name ∈ (Rule.editing base line).map (·.name) ↔
        rule ∈ Rule.effective base (Rule.firing line) line :=
      Rule.name_mem_map_iff (Rule.editing_sublist base line).subset hrule
    rw [hedits, ← Rule.firing_of_plain hplain, ← hentry, Tally.lookup_ofNames]
    split
    · exact iff_of_true rfl ‹_›
    · exact iff_of_false Bool.false_ne_true ‹_›

/-- Tokens that repeat, one of them with a quote shared by two of its own occurrences, and one that
is not quoted. -/
def sampleApart : Text :=
  "(\"mg_volume\",\"mg_wall\"mg_wall\",\"mg_volume\",mg_interog)".toList

/-- The five rules from the back of the table to its front. -/
theorem groupRules_order_sample :
    (∀ rule ∈ Rule.wholeLineRules, ¬ rule.trigger <:+: sampleApart) ∧
      Rule.SharesNoQuote sampleApart ∧ Rule.groupRules.reverse.Perm Rule.groupRules ∧
      Rule.applyAll [] (Rule.groupRules.reverse.filter (·.firesOn sampleApart)) sampleApart =
        "(4,1mg_wall\",4,mg_interog)".toList ∧
      Rule.applyAll [] (Rule.groupRules.filter (·.firesOn sampleApart)) sampleApart =
        "(4,1mg_wall\",4,mg_interog)".toList := by
  have hplain : ∀ rule ∈ Rule.wholeLineRules, ¬ rule.trigger <:+: sampleApart := by
    simp only [← Text.includes_iff]
    decide +kernel
  have hquotes : Rule.SharesNoQuote sampleApart := by decide +kernel
  have horder : Rule.groupRules.reverse.Perm Rule.groupRules := List.reverse_perm _
  have hsame := (groupRules_order hplain hquotes horder []).1
  have hreversed : Rule.applyAll [] (Rule.groupRules.reverse.filter (·.firesOn sampleApart))
      sampleApart = "(4,1mg_wall\",4,mg_interog)".toList := by
    decide +kernel
  exact ⟨hplain, hquotes, horder, hreversed, hsame.symm.trans hreversed⟩

/-- Where a quote is shared the order matters: the token that comes first takes it away. -/
example : Rule.applyAll [] Rule.groupRules "\"mg_wall\"mg_volume\"".toList =
      "1mg_volume\"".toList ∧
    Rule.applyAll [] Rule.groupRules.reverse "\"mg_wall\"mg_volume\"".toList =
      "\"mg_wall4".toList := by
  decide +kernel

end MeshScript
