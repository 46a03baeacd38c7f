import MeshScript.Text.Blank
/-!
# MeshScript.SurfaceList -- the surfaces of a wall group

A wall-group line names its surfaces between braces. The list taken from it is the
text between the first opening brace and the first closing brace behind it, kept
character for character, so that the refinement field can repeat exactly what the
export wrote. Line breaks and further opening braces may stand inside; a closing
brace cannot, and the type says so.
-/

namespace MeshScript

/-- **A surface list**: the text between two braces, which holds no closing brace. -/
structure SurfaceList where
  raw : Text
  closed : '}' ∉ raw := by decide
  deriving DecidableEq, Repr

namespace SurfaceList

/-- What stands before the first closing brace holds none. -/
theorem closed_takeWhile (text : Text) : '}' ∉ text.takeWhile (· ≠ '}') := by
  intro inside
  simpa using List.all_eq_true.1 List.all_takeWhile _ inside

/-- The brace group of a line: the text from its first opening brace to the first
closing brace behind that, if there are two such braces. -/
def ofLine? (line : Text) : Option SurfaceList :=
  match line.dropWhile (· ≠ '{') with
  | [] => none
  | _ :: rest =>
    if '}' ∈ rest then some ⟨rest.takeWhile (· ≠ '}'), closed_takeWhile rest⟩ else none

/-- **The surfaces** one by one: the entries between commas without the white space
around them; empty entries do not count. -/
def names (surfaces : SurfaceList) : List Text :=
  ((surfaces.raw.splitOn ',').map Text.trim).filter (!·.isEmpty)

end SurfaceList

end MeshScript
