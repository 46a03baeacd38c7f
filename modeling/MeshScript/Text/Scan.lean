import MeshScript.Text.Search
/-!
# MeshScript.Text.Scan -- reading a text from its start

A scan takes something off the front of a text, or refuses. `p <|> q` tries `q` on
the same text when `p` refuses. Only whether a text is well formed matters here, so a
refusal carries no message.
-/

namespace MeshScript

/-- **A scan**: what is read, with the rest of the text, or a refusal. -/
abbrev Scan (α : Type) : Type :=
  StateT Text Option α

namespace Scan

/-- Reads with a function on texts. -/
def ofFunction {α : Type} (f : Text → Option (α × Text)) : Scan α := f

/-- The next character, which is not taken. -/
def peek? : Scan (Option Char) := fun text => some (text.head?, text)

/-- Nothing is left. -/
def atEnd : Scan Bool := fun text => some (text.isEmpty, text)

/-- How many characters are left. -/
def remaining : Scan Nat := fun text => some (text.length, text)

/-- Takes the next character, which has to satisfy the test. -/
def satisfy (test : Char → Bool) : Scan Char := fun text =>
  match text with
  | [] => none
  | c :: rest => if test c then some (c, rest) else none

/-- Takes exactly this character. -/
def char (c : Char) : Scan Unit := do
  discard (satisfy (· == c))

/-- Takes exactly these characters. -/
def literal (word : Text) : Scan Unit := fun text =>
  if word.isPrefixOf text then some ((), text.drop word.length) else none

/-- Takes the word if it comes next and tells whether it did. -/
def accept (word : Text) : Scan Bool := fun text =>
  if word.isPrefixOf text then some (true, text.drop word.length) else some (false, text)

/-- Tells whether the word comes next and takes nothing. -/
def sees (word : Text) : Scan Bool := fun text =>
  some (word.isPrefixOf text, text)

/-- Takes all characters up to the first that fails the test. -/
def takeWhile (test : Char → Bool) : Scan Text := fun text =>
  some (text.takeWhile test, text.dropWhile test)

/-- The same, but at least one character. -/
def takeWhile1 (test : Char → Bool) : Scan Text := do
  let taken ← takeWhile test
  guard !taken.isEmpty
  return taken

/-- Takes exactly `count` decimal digits and gives their value. -/
def digits (count : Nat) : Scan Nat := fun text =>
  let taken := text.take count
  if taken.length = count ∧ taken.all Char.isDigit then
    some (taken.foldl (fun n c => 10 * n + (c.toNat - '0'.toNat)) 0, text.drop count)
  else none

/-- Takes what `scan` takes if it takes anything. -/
def optional {α : Type} (scan : Scan α) : Scan (Option α) :=
  some <$> scan <|> pure none

/-- Space within a line. -/
def isSpace (c : Char) : Bool :=
  c == ' ' || c == '\t'

/-- Skips space within a line. -/
def skipSpace : Scan Unit := do
  discard (takeWhile isSpace)

end Scan

/-- What `scan` reads from a text, if it reads all of it. -/
def Text.read? {α : Type} (text : Text) (scan : Scan α) : Option α := do
  let (result, rest) ← scan.run text
  guard rest.isEmpty
  return result

end MeshScript
