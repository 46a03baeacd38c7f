import MeshScript.Text.Search
/-!
# MeshScript.Tally -- named counts

A tally counts by name and keeps its entries in the order of the names, compared
character by character. Names that were never counted have no entry.
-/

namespace MeshScript

/-- **A tally**: names with their counts, in increasing order of the names. -/
structure Tally where
  entries : List (Text × Nat)
  deriving DecidableEq, Repr, Inhabited

namespace Tally

/-- The tally without entries. -/
def empty : Tally := ⟨[]⟩

/-- Adds `amount` to the entry of `name`, which is made if it is absent. -/
def insertEntry (name : Text) (amount : Nat) : List (Text × Nat) → List (Text × Nat)
  | [] => [(name, amount)]
  | (other, count) :: rest =>
    match compare name other with
    | .lt => (name, amount) :: (other, count) :: rest
    | .eq => (other, count + amount) :: rest
    | .gt => (other, count) :: insertEntry name amount rest

/-- Counts `name` `amount` times. The entry is there afterwards, also for zero. -/
def add (tally : Tally) (name : Text) (amount : Nat) : Tally :=
  ⟨insertEntry name amount tally.entries⟩

/-- Counts `name` once. -/
def increment (tally : Tally) (name : Text) : Tally :=
  tally.add name 1

/-- The count of `name`, zero if it has no entry. -/
def count (tally : Tally) (name : Text) : Nat :=
  (tally.entries.lookup name).getD 0

/-- All counts together. -/
def total (tally : Tally) : Nat :=
  tally.entries.foldl (fun n entry => n + entry.2) 0

/-- The tally of a list of names with counts. -/
def ofList (entries : List (Text × Nat)) : Tally :=
  entries.foldl (fun tally entry => tally.add entry.1 entry.2) empty

end Tally

end MeshScript
