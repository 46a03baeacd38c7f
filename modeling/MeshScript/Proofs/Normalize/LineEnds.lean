import MeshScript.Proofs.Normalize.Outcome
import MeshScript.Proofs.Text.Lines
import Mathlib.Data.Finset.Basic
/-!
# MeshScript.Proofs.Normalize.LineEnds -- what the lines of a text do not depend on

Two changes of a source text that its script does not show. A carriage return that is put
between a line and its line feed is dropped again when the text is read, unless the line has
one there already (`Text.lines_withReturns`): so a text may have either kind of line end, line
by line. And a line that cleaning drops may stand between any two others
(`keptLines_insert`): cleaning goes first, so no rule sees what stood between
the lines that are kept.

Both come down to how a text is cut into lines. A text that ends in a line feed is read by
itself, whatever follows it (`Text.lines_append`).
-/

namespace MeshScript

namespace Text

/-! ## Line feeds with and without a carriage return -/

/-- **A bare line feed**: at the position is a line feed, and no carriage return directly
before it. -/
def IsBareFeed (text : Text) (position : Nat) : Prop :=
  text[position]? = some '\n' ∧ ¬ EndsInReturn (text.take position)

instance (text : Text) (position : Nat) : Decidable (text.IsBareFeed position) :=
  inferInstanceAs (Decidable (_ ∧ _))

/-- The text from a position on, with a carriage return more before each chosen one. -/
def withReturnsFrom (chosen : Finset Nat) (position : Nat) : Text → Text
  | [] => []
  | c :: rest =>
    (if position ∈ chosen then ['\r', c] else [c]) ++ withReturnsFrom chosen (position + 1) rest

/-- **The text with a carriage return more** before each of the chosen positions. -/
def withReturns (text : Text) (chosen : Finset Nat) : Text :=
  withReturnsFrom chosen 0 text

/-- Reading on behind `front` with `current` in hand: a carriage return at the end of what is in
hand stands in the text as well. -/
theorem linesFrom_withReturnsFrom {chosen : Finset Nat} (rest : Text) : ∀ (front current : Text),
    (EndsInReturn current.reverse → front.EndsInReturn) →
    (∀ i, front.length + i ∈ chosen →
      rest[i]? = some '\n' ∧ ¬ EndsInReturn (front ++ rest.take i)) →
    linesFrom current (withReturnsFrom chosen front.length rest) = linesFrom current rest := by
  induction rest with
  | nil =>
    intro front current _ _
    rfl
  | cons c rest ih =>
    intro front current hcurrent hbare
    -- whatever is in hand then, the rest is read on behind one character more
    have hnext : ∀ {current' : Text}, (EndsInReturn current'.reverse → c = '\r') →
        linesFrom current' (withReturnsFrom chosen (front.length + 1) rest) =
          linesFrom current' rest := by
      intro current' hends
      have hlength : (front ++ [c]).length = front.length + 1 := by simp
      rw [← hlength]
      apply ih _ _ (fun h => by simp [EndsInReturn, hends h])
      intro i hi
      have hmem : front.length + (i + 1) ∈ chosen := by rwa [hlength, Nat.add_right_comm] at hi
      simpa using hbare (i + 1) hmem
    rw [withReturnsFrom]
    by_cases hchosen : front.length ∈ chosen
    · obtain ⟨hfeed, hreturn⟩ := hbare 0 hchosen
      obtain rfl : c = '\n' := Option.some.inj hfeed
      have hkept : ¬ EndsInReturn current.reverse := fun hends =>
        hreturn (by simpa using hcurrent hends)
      have hdrop : dropReturn (current.reverse ++ ['\r']) = dropReturn current.reverse := by
        rw [dropReturn_eq_self hkept]
        simp [dropReturn]
      have hfeedNe : ('\r' : Char) ≠ '\n' := by decide
      rw [if_pos hchosen, List.cons_append, List.cons_append, List.nil_append, linesFrom,
        if_neg hfeedNe, linesFrom, if_pos rfl, linesFrom, if_pos rfl, List.reverse_cons, hdrop,
        hnext (by simp [EndsInReturn])]
    · rw [if_neg hchosen, List.cons_append, List.nil_append, linesFrom, linesFrom]
      split
      · rw [hnext (by simp [EndsInReturn])]
      · exact hnext (by simp [EndsInReturn])

/-- **The lines do not show which line feeds have a carriage return before them.** -/
theorem lines_withReturns {text : Text} {chosen : Finset Nat}
    (hbare : ∀ position ∈ chosen, text.IsBareFeed position) :
    (text.withReturns chosen).lines = text.lines := by
  apply linesFrom_withReturnsFrom text [] [] id
  intro i hi
  rw [List.length_nil, Nat.zero_add] at hi
  exact hbare i hi

/-! ## Texts that end in a line feed -/

/-- **A terminated text** ends in a line feed, or is empty. -/
def IsTerminated (text : Text) : Prop :=
  text = [] ∨ text.getLast? = some '\n'

instance (text : Text) : Decidable text.IsTerminated :=
  inferInstanceAs (Decidable (_ ∨ _))

/-- **A terminated text is read by itself**, and then what follows it. -/
theorem lines_append {front : Text} (h : front.IsTerminated) (back : Text) :
    (front ++ back).lines = front.lines ++ back.lines := by
  rcases h with rfl | hlast
  · rfl
  · rw [← List.dropLast_append_getLast? _ hlast, List.append_assoc]
    exact linesFrom_append_cons [] front.dropLast back

end Text

/-! ## Lines that cleaning drops -/

/-- **A dropped line may stand anywhere**: the kept lines are the same with it and without it. -/
theorem keptLines_insert {front line : Text} (hfront : front.IsTerminated) (hline : '\n' ∉ line)
    (hdropped : line.isBlank = true ∨ line.isExcluded = true) (back : Text) :
    (Script.parse (front ++ line ++ '\n' :: back)).keptLines =
      (Script.parse (front ++ back)).keptLines := by
  have hlines : (front ++ line ++ '\n' :: back).lines =
      front.lines ++ line.dropReturn :: back.lines := by
    rw [List.append_assoc, Text.lines_append hfront, Text.lines_append_newline hline]
  rw [Script.keptLines, Script.keptLines, Script.parse, Script.parse, hlines,
    Text.lines_append hfront]
  -- the line is read without its carriage return, and is dropped all the same
  rcases hdropped with hblank | hexcluded
  · have hblank' := (Text.isBlank_dropReturn line).trans hblank
    simp [hblank']
  · have hexcluded' := (Text.isExcluded_dropReturn line).trans hexcluded
    simp only [List.filter_append, List.filter_cons]
    split <;> simp [hexcluded']

end MeshScript
