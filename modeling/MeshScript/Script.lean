import MeshScript.Text.Lines
/-!
# MeshScript.Script -- a mesh script in memory

A script is an ordered list of lines without their terminators. An edit may leave
line feeds at the end of a line; rendering turns them into blank lines directly
behind it. That is how spacing is attached to a line without a new entry between
its neighbours, so the number of lines never changes under an edit.
-/

namespace MeshScript

/-- **A script**: its lines, first to last, each without its terminator. -/
structure Script where
  lines : List Text
  deriving DecidableEq, Repr, Inhabited

namespace Script

/-- The script without lines. -/
def empty : Script := ⟨[]⟩

/-- Reads a script off its source text; `Text.lines` says what a line is. -/
def parse (source : Text) : Script :=
  ⟨source.lines⟩

/-- The source text of the script, every line ended by a line feed. -/
def render (script : Script) : Text :=
  Text.unlines script.lines

/-- The number of lines. -/
def length (script : Script) : Nat :=
  script.lines.length

/-- No line at all. -/
def isEmpty (script : Script) : Bool :=
  script.lines.isEmpty

/-- The script with one more line at its end. -/
def push (script : Script) (line : Text) : Script :=
  ⟨script.lines ++ [line]⟩

/-- The script with several more lines at its end. -/
def append (script : Script) (lines : List Text) : Script :=
  ⟨script.lines ++ lines⟩

/-- The lines that satisfy `keep`, in order. -/
def filter (script : Script) (keep : Text → Bool) : Script :=
  ⟨script.lines.filter keep⟩

@[simp] theorem lines_push (script : Script) (line : Text) :
    (script.push line).lines = script.lines ++ [line] := rfl

@[simp] theorem lines_append (script : Script) (lines : List Text) :
    (script.append lines).lines = script.lines ++ lines := rfl

@[simp] theorem lines_filter (script : Script) (keep : Text → Bool) :
    (script.filter keep).lines = script.lines.filter keep := rfl

end Script

end MeshScript
