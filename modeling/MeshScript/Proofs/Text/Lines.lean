import MeshScript.Text.Lines
import MeshScript.Text.Blank
import MeshScript.Exclusion
import MeshScript.Proofs.Text.Occurrence
/-!
# MeshScript.Proofs.Text.Lines -- writing lines and reading them again

A text that is read as lines, written and read again gives the same lines, except that a
line which still ends in a carriage return loses it (`lines_unlines`). The rest of the module says
what such a carriage return is good for: nothing. It is white space and no table entry
holds it, so the line without it is blank, excluded and matched exactly when the line
with it is.
-/

namespace MeshScript.Text

/-! ## Lines hold no line feed -/

theorem notMem_of_notMem_dropReturn {line : Text} {c : Char} (h : c ∉ line) :
    c ∉ dropReturn line := by
  unfold dropReturn
  split
  · intro hmem
    exact h (List.dropLast_subset line hmem)
  · exact h

theorem notMem_of_mem_linesFrom {text : Text} : ∀ {current line : Text},
    '\n' ∉ current → line ∈ linesFrom current text → '\n' ∉ line := by
  induction text with
  | nil =>
    intro current line hcurrent hmem
    unfold linesFrom at hmem
    split at hmem
    · simp at hmem
    · rw [List.mem_singleton.1 hmem]
      simpa using hcurrent
  | cons c rest ih =>
    intro current line hcurrent hmem
    unfold linesFrom at hmem
    split at hmem
    · rcases List.mem_cons.1 hmem with rfl | hmem
      · exact notMem_of_notMem_dropReturn (by simpa using hcurrent)
      · exact ih (by simp) hmem
    · rename_i hc
      refine ih ?_ hmem
      simpa [eq_comm] using And.intro (Ne.symm hc) hcurrent

/-- No line of a text holds a line feed. -/
theorem notMem_of_mem_lines {text line : Text} (h : line ∈ text.lines) : '\n' ∉ line :=
  notMem_of_mem_linesFrom (by simp) h

theorem prefix_dropReturn (line : Text) : dropReturn line <+: line := by
  unfold dropReturn
  split
  · exact List.dropLast_prefix line
  · exact List.prefix_refl line

theorem infix_of_mem_linesFrom {text : Text} : ∀ {current line : Text},
    line ∈ linesFrom current text → line <:+: current.reverse ++ text := by
  induction text with
  | nil =>
    intro current line hmem
    unfold linesFrom at hmem
    split at hmem
    · simp at hmem
    · rw [List.mem_singleton.1 hmem]
      exact (List.prefix_append _ _).isInfix
  | cons c rest ih =>
    intro current line hmem
    unfold linesFrom at hmem
    split at hmem
    · rcases List.mem_cons.1 hmem with rfl | hmem
      · exact ((prefix_dropReturn _).trans (List.prefix_append _ _)).isInfix
      · exact infix_append_cons_of_infix (ih hmem) current.reverse c
    · simpa using ih hmem

/-- A line of a text stands in the text. -/
theorem infix_of_mem_lines {text line : Text} (h : line ∈ text.lines) : line <:+: text :=
  infix_of_mem_linesFrom h

theorem linesFrom_append_cons (current front back : Text) :
    linesFrom current (front ++ '\n' :: back) =
      linesFrom current (front ++ ['\n']) ++ lines back := by
  induction front generalizing current with
  | nil => simp [linesFrom, lines]
  | cons c front ih =>
    simp only [List.cons_append, linesFrom]
    split
    · rw [ih, List.cons_append]
    · rw [ih]

/-- **A text is read part by part**, if it is cut behind a line feed. -/
theorem lines_unlines_append (ls : List Text) (rest : Text) :
    lines (unlines ls ++ rest) = lines (unlines ls) ++ lines rest := by
  induction ls with
  | nil => rfl
  | cons line ls ih =>
    have hfirst (back : Text) : lines (line ++ '\n' :: back) =
        lines (line ++ ['\n']) ++ lines back :=
      linesFrom_append_cons [] line back
    rw [unlines_cons, List.append_assoc, List.cons_append, hfirst, ih, ← List.append_assoc,
      ← hfirst]

/-- **Writing lines and reading them again** takes one carriage return off each line. -/
theorem lines_unlines {ls : List Text} (h : ∀ line ∈ ls, '\n' ∉ line) :
    lines (unlines ls) = ls.map dropReturn := by
  induction ls with
  | nil => rfl
  | cons line rest ih =>
    rw [unlines_cons, lines_append_newline (h line List.mem_cons_self),
      ih fun other hmem => h other (List.mem_cons_of_mem line hmem), List.map_cons]

/-! ## A carriage return at the end of a line -/

/-- The line ends in a carriage return. -/
def EndsInReturn (line : Text) : Prop :=
  line.getLast? = some '\r'

instance (line : Text) : Decidable line.EndsInReturn :=
  inferInstanceAs (Decidable (line.getLast? = some '\r'))

/-- A line that ends in a carriage return is the line without it and then it. -/
theorem eq_dropReturn_append {line : Text} (h : line.EndsInReturn) :
    line = dropReturn line ++ ['\r'] := by
  have hdrop : dropReturn line = line.dropLast := if_pos h
  rw [hdrop]
  exact (List.dropLast_append_getLast? _ h).symm

theorem dropReturn_eq_self {line : Text} (h : ¬ line.EndsInReturn) : dropReturn line = line :=
  if_neg h

theorem dropReturn_eq_self_iff {line : Text} : dropReturn line = line ↔ ¬ line.EndsInReturn := by
  refine ⟨fun heq hends => ?_, dropReturn_eq_self⟩
  have hcut := eq_dropReturn_append hends
  rw [heq, List.self_eq_append_right] at hcut
  exact List.cons_ne_nil _ _ hcut

/-- A line and the line without its carriage return differ by that one character at most. -/
theorem eq_dropReturn_or (line : Text) :
    line = dropReturn line ∨ line = dropReturn line ++ ['\r'] := by
  by_cases h : line.EndsInReturn
  · exact Or.inr (eq_dropReturn_append h)
  · exact Or.inl (dropReturn_eq_self h).symm

/-- What does not see a carriage return behind a text does not see `dropReturn`. -/
theorem apply_dropReturn {α : Sort _} {f : Text → α} (h : ∀ line, f (line ++ ['\r']) = f line)
    (line : Text) : f (dropReturn line) = f line := by
  rcases eq_dropReturn_or line with heq | heq
  · exact congrArg f heq.symm
  · exact (h _).symm.trans (congrArg f heq.symm)

theorem isBlank_dropReturn (line : Text) : (dropReturn line).isBlank = line.isBlank := by
  have hreturn : isWhiteSpace '\r' = true := by decide
  exact apply_dropReturn (fun line => by simp [isBlank, hreturn]) line

/-- The substring test for a needle without carriage returns does not see the one at the
end of a line. -/
theorem includes_dropReturn {needle : Text} (h : '\r' ∉ needle) (line : Text) :
    (dropReturn line).includes needle = line.includes needle :=
  apply_dropReturn (f := (includes · needle)) (fun _ => includes_concat h) line

theorem isExcluded_dropReturn (line : Text) : (dropReturn line).isExcluded = line.isExcluded := by
  have hpattern : ∀ exclusion ∈ Exclusion.table, '\r' ∉ exclusion.pattern := by decide
  rw [Bool.eq_iff_iff, isExcluded_iff, isExcluded_iff]
  refine exists_congr fun exclusion => and_congr_right fun hmem => ?_
  rw [← includes_iff, ← includes_iff, includes_dropReturn (hpattern exclusion hmem)]

end MeshScript.Text
