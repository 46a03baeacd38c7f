import MeshScript.Toml.Value
/-!
# MeshScript.Toml.Table -- tables under construction

A document fills its tables piece by piece, and what may still be added to a table
depends on how it came about: by a header of its own, as a step on the way to the
table of another header, or by a dotted key. `Entry` keeps track of that.

* No key is set twice.
* A table with a header has no second one, and dotted keys from elsewhere do not reach
  into it; a table that only came about on the way to another one may still get its
  header.
* A table made by dotted keys is extended by dotted keys of the same table only, or by
  headers of tables within it.
* Following a key with a list of tables means following its last table.

Entries keep the order in which their keys came up, except that a table that gets its
header late moves to the end of the table it is in.
-/

namespace MeshScript.Toml

/-- How a table came about. -/
inductive TableKind
  /-- By its own header, or as the root. -/
  | declared
  /-- On the way to the table of a header. -/
  | implied
  /-- By a dotted key. -/
  | dotted
  deriving DecidableEq, Repr

/-- **What a key stands for** in a table under construction. -/
inductive Entry
  | value (v : Value)
  | table (kind : TableKind) (entries : List (Text × Entry))
  /-- A list of tables, the last one apart. -/
  | tables (earlier : List (List (Text × Entry))) (last : List (Text × Entry))

/-- The entries of a table. -/
abbrev Entries : Type :=
  List (Text × Entry)

namespace Entries

/-- The entries with `key` standing for `entry`, in the place it had before or else at
the end. -/
def put (entries : Entries) (key : Text) (entry : Entry) : Entries :=
  if (entries.lookup key).isSome then
    entries.map fun old => if old.1 = key then (key, entry) else old
  else entries ++ [(key, entry)]

/-- The entries without that of `key`. -/
def erase (entries : Entries) (key : Text) : Entries :=
  entries.filter (·.1 ≠ key)

/-- **Follows keys** into a table and changes what they lead to. Missing tables are
made; `byDots` tells whether the keys are those of a dotted key or of a header. -/
def alter (byDots : Bool) (change : TableKind → Entries → Option Entries) :
    List Text → TableKind → Entries → Option Entries
  | [], kind, entries => change kind entries
  | key :: keys, _, entries =>
    match entries.lookup key with
    | none => do
      let kind := if byDots then .dotted else .implied
      return entries.put key (.table kind (← alter byDots change keys kind []))
    | some (.value _) => none
    | some (.table kind inner) => do
      guard !(byDots && kind == .declared)
      return entries.put key (.table kind (← alter byDots change keys kind inner))
    | some (.tables earlier last) => do
      return entries.put key (.tables earlier (← alter byDots change keys .declared last))

/-- Sets a value under a key that may be dotted. -/
def set (entries : Entries) (keys : List Text) (value : Value) : Option Entries := do
  let last ← keys.getLast?
  let path := keys.dropLast
  let add (kind : TableKind) (inner : Entries) : Option Entries := do
    guard ((kind == .dotted) != path.isEmpty && (inner.lookup last).isNone)
    return inner.put last (.value value)
  alter true add path .declared entries

/-- Sets several values, one after the other. -/
def setAll (entries : Entries) (assignments : List (List Text × Value)) : Option Entries :=
  assignments.foldlM (fun entries (keys, value) => entries.set keys value) entries

/-- A header and the values below it. -/
def declare (entries : Entries) (keys : List Text)
    (assignments : List (List Text × Value)) : Option Entries := do
  let last ← keys.getLast?
  let add (_ : TableKind) (outer : Entries) : Option Entries := do
    match outer.lookup last with
    | none => return outer.put last (.table .declared (← setAll [] assignments))
    | some (.table .implied inner) =>
      return outer.erase last ++ [(last, .table .declared (← setAll inner assignments))]
    | some _ => none
  alter false add keys.dropLast .declared entries

/-- A header that adds a table to a list, and the values below it. -/
def declareItem (entries : Entries) (keys : List Text)
    (assignments : List (List Text × Value)) : Option Entries := do
  let last ← keys.getLast?
  let add (_ : TableKind) (outer : Entries) : Option Entries := do
    let item ← setAll [] assignments
    match outer.lookup last with
    | none => return outer.put last (.tables [] item)
    | some (.tables earlier previous) =>
      return outer.put last (.tables (earlier ++ [previous]) item)
    | some _ => none
  alter false add keys.dropLast .declared entries

end Entries

mutual

/-- The value that an entry stands for when the document is complete. -/
def Entry.toValue : Entry → Value
  | .value v => v
  | .table _ entries => .table (toFields entries)
  | .tables earlier last => .array (toTables earlier ++ [.table (toFields last)])

/-- The fields of a complete table. -/
def toFields : List (Text × Entry) → List (Text × Value)
  | [] => []
  | (key, entry) :: rest => (key, entry.toValue) :: toFields rest

/-- The tables of a complete list. -/
def toTables : List (List (Text × Entry)) → List Value
  | [] => []
  | table :: rest => .table (toFields table) :: toTables rest

end

end MeshScript.Toml
