import MeshScript.Event
/-!
# MeshScript.Log -- what is written about a run while it goes on

The events of a run are written to a log, unless a filter holds them back. What filters there are
and how a line of the log looks is the business of a library; `Log.Library` is what can be asked of
it. The filter is named by the surroundings of the program, or else it is the usual one.
-/

namespace MeshScript.Log

/-- **A library** that writes logs. -/
structure Library where
  /-- What holds events back. -/
  Filter : Type
  /-- Reads a filter. -/
  filter? : Text → Option Filter
  /-- Reads a filter and leaves out what cannot be read. -/
  readFilter : Text → Filter
  /-- What is written about the events, first to last. The clock gives the time of each line. -/
  write : Filter → (Nat → Text) → List Event → Text

/-- The usual filter. -/
def usualFilter : Text :=
  "geofix=info".toList

/-- **The filter** of a program in whose surroundings this one is set, if it can be read. -/
def Library.chosen (library : Library) (setting? : Option Text) : library.Filter :=
  match setting?.bind library.filter? with
  | some filter => filter
  | none => library.readFilter usualFilter

end MeshScript.Log
