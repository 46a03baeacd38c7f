import MeshScript.Text.Search
/-!
# MeshScript.Exclusion -- the lines that are left out

An exclusion is a substring that disqualifies every line it stands in, wherever it
stands: a statement that shares its line with an excluded directive, or with a
trailing comment, goes with it. The table is fixed. Each entry has a name, so that
it can be told which one a line met.

Only the `Mesh.Save…` options are excluded. The statement `Save "<file>";` stays and
is retargeted later.
-/

namespace MeshScript

/-- **An exclusion**: no line with `pattern` in it is kept. -/
structure Exclusion where
  name : Text
  pattern : Text
  deriving DecidableEq, Repr

namespace Exclusion

/-- All exclusions, in the order in which they are tested. -/
def table : List Exclusion :=
  [ ⟨"save-all".toList, "Mesh.SaveAll".toList⟩,
    ⟨"save-options".toList, "Mesh.Save".toList⟩,
    ⟨"mesh-3d".toList, "Mesh  3".toList⟩,
    ⟨"coherence".toList, "Coherence".toList⟩,
    ⟨"characteristic-length-min".toList, "Mesh.CharacteristicLengthMin".toList⟩,
    ⟨"characteristic-length-max".toList, "Mesh.CharacteristicLengthMax".toList⟩,
    ⟨"optimize".toList, "Mesh.Optimize".toList⟩,
    ⟨"optimize-netgen".toList, "Mesh.OptimizeNetgen".toList⟩,
    ⟨"high-order".toList, "Mesh.High".toList⟩,
    ⟨"geometry-tolerance".toList, "Geometry.Tolerance".toList⟩,
    ⟨"comment".toList, "//".toList⟩ ]

/-- The exclusion disqualifies the line. -/
def excludes (exclusion : Exclusion) (line : Text) : Bool :=
  line.includes exclusion.pattern

/-- The first exclusion of the table that disqualifies the line. -/
def firstFor? (line : Text) : Option Exclusion :=
  table.find? (·.excludes line)

end Exclusion

/-- Some exclusion disqualifies the line. -/
def Text.isExcluded (line : Text) : Bool :=
  (Exclusion.firstFor? line).isSome

theorem Text.isExcluded_iff {line : Text} :
    line.isExcluded = true ↔
      ∃ exclusion ∈ Exclusion.table, exclusion.pattern <:+: line := by
  simp [Text.isExcluded, Exclusion.firstFor?, Exclusion.excludes, Text.includes_iff]

theorem Text.isExcluded_eq_false_iff {line : Text} :
    line.isExcluded = false ↔
      ∀ exclusion ∈ Exclusion.table, ¬ exclusion.pattern <:+: line := by
  rw [← Bool.not_eq_true, Text.isExcluded_iff]
  simp

end MeshScript
