import MeshScript.Text.Search
/-!
# MeshScript.Text.Lines -- a text as lines, and back

`Text.lines` cuts a text behind every line feed. The line feed is dropped, and with
it one carriage return directly before it; a last piece without a line feed is a
line if it is not empty and keeps its carriage return. `Text.unlines` ends every
line with a line feed.

`lines_append_newline` is the equation for a text whose first line is known and
`lines_of_unterminated` the one for a text without any line feed; together they
determine `lines`.
-/

namespace MeshScript.Text

/-- The line without one carriage return at its end. -/
def dropReturn (line : Text) : Text :=
  if line.getLast? = some '\r' then line.dropLast else line

/-- **The scan of `lines`.** `current` is the line under way, last character first. -/
def linesFrom (current : Text) : Text → List Text
  | [] => if current.isEmpty then [] else [current.reverse]
  | c :: rest =>
    if c = '\n' then dropReturn current.reverse :: linesFrom [] rest
    else linesFrom (c :: current) rest

/-- The lines of the text, without their terminators. -/
def lines (text : Text) : List Text :=
  linesFrom [] text

/-- The lines one after the other, each ended by a line feed. -/
def unlines (lines : List Text) : Text :=
  lines.flatMap (· ++ ['\n'])

theorem linesFrom_append {front : Text} (h : '\n' ∉ front) (current rest : Text) :
    linesFrom current (front ++ rest) = linesFrom (front.reverse ++ current) rest := by
  induction front generalizing current with
  | nil => rfl
  | cons c front ih =>
    simp only [List.mem_cons, not_or] at h
    simp [linesFrom, Ne.symm h.1, ih h.2]

@[simp] theorem lines_nil : lines [] = [] := rfl

/-- The first line ends at the first line feed. -/
theorem lines_append_newline {line : Text} (h : '\n' ∉ line) (rest : Text) :
    lines (line ++ '\n' :: rest) = dropReturn line :: lines rest := by
  simp [lines, linesFrom_append h, linesFrom]

/-- A text without a line feed is one line, or none if it is empty. -/
theorem lines_of_unterminated {line : Text} (h : '\n' ∉ line) :
    lines line = if line.isEmpty then [] else [line] := by
  have := linesFrom_append h [] []
  simpa [lines, linesFrom] using this

@[simp] theorem unlines_nil : unlines [] = [] := rfl

@[simp] theorem unlines_cons (line : Text) (rest : List Text) :
    unlines (line :: rest) = line ++ '\n' :: unlines rest := by
  simp [unlines]

@[simp] theorem unlines_append (front back : List Text) :
    unlines (front ++ back) = unlines front ++ unlines back := by
  simp [unlines]

end MeshScript.Text
