import MeshScript.Settings.KeyPath
import MeshScript.Settings.Library
/-!
# MeshScript.Settings.Tree -- merging settings

Settings from several sources are merged into one tree, source after source. Tables
merge key by key. Any other value replaces what was under its key. A table put over
another value replaces it as soon as it has a key of its own; an empty one leaves it.

A position in a list is set as it is, without merging. A list is made where there is
none, and it is filled up with nulls until it reaches the position: behind its last item,
or before its first one for a position counted from behind.

Each value remembers the file it was read from. Tables and lists that only came about by
merging have no origin.
-/

namespace MeshScript.Settings

/-- **A tree of settings**, each value with its origin. -/
inductive Tree
  | scalar (origin? : Option Path) (value : Scalar)
  | list (origin? : Option Path) (items : List Tree)
  | table (origin? : Option Path) (fields : List (Text × Tree))

namespace Tree

/-! ## Values of a file -/

mutual

/-- The tree of a value that was read from a file. A date is a text. -/
def ofToml (origin? : Option Path) : Toml.Value → Tree
  | .string text => .scalar origin? (.text text)
  | .integer n => .scalar origin? (.integer n)
  | .float x => .scalar origin? (.float x)
  | .boolean b => .scalar origin? (.boolean b)
  | .datetime written => .scalar origin? (.text written)
  | .array items => .list origin? (ofTomlItems origin? items)
  | .table fields => .table origin? (ofTomlFields origin? fields)

/-- The trees of the items of an array. -/
def ofTomlItems (origin? : Option Path) : List Toml.Value → List Tree
  | [] => []
  | item :: rest => ofToml origin? item :: ofTomlItems origin? rest

/-- The trees of the fields of a table. -/
def ofTomlFields (origin? : Option Path) : List (Text × Toml.Value) → List (Text × Tree)
  | [] => []
  | (key, value) :: rest => (key, ofToml origin? value) :: ofTomlFields origin? rest

end

/-! ## Looking and putting -/

/-- The tree without settings. -/
def empty : Tree := .table none []

/-- A value that is not there yet. -/
def null : Tree := .scalar none .null

/-- What stands directly under a key; nothing does unless the tree is a table. -/
def child? (tree : Tree) (key : Text) : Option Tree :=
  match tree with
  | table _ fields => fields.lookup key
  | _ => none

/-- The fields with `child` under a key, in the place it had before or else at the end. -/
def putField (fields : List (Text × Tree)) (key : Text) (child : Tree) : List (Text × Tree) :=
  if (fields.lookup key).isSome then
    fields.map fun old => if old.1 = key then (key, child) else old
  else fields ++ [(key, child)]

/-- The tree with `child` under a key. What is no table gives way to one. -/
def put (tree : Tree) (key : Text) (child : Tree) : Tree :=
  match tree with
  | table origin? fields => .table origin? (putField fields key child)
  | _ => .table none [(key, child)]

theorem lookup_map_replace (fields : List (Text × Tree)) (key : Text) (child : Tree)
    (other : Text) :
    (fields.map fun old => if old.1 = key then (key, child) else old).lookup other =
      if other = key then (fields.lookup key).map fun _ => child else fields.lookup other := by
  induction fields with
  | nil => simp
  | cons field rest ih =>
    obtain ⟨name, old⟩ := field
    by_cases same : name = key <;> by_cases here : other = key
    · subst same here
      simp
    · subst same
      simp [List.lookup_cons, beq_false_of_ne here, here, ih]
    · subst here
      simp [List.lookup_cons, beq_false_of_ne (Ne.symm same), same, ih]
    · simp only [List.map_cons, if_neg same, List.lookup_cons, ih, if_neg here]

theorem lookup_putField (fields : List (Text × Tree)) (key : Text) (child : Tree) (other : Text) :
    (putField fields key child).lookup other =
      if other = key then some child else fields.lookup other := by
  unfold putField
  split
  · rename_i present
    obtain ⟨old, found⟩ := Option.isSome_iff_exists.1 present
    simp [lookup_map_replace, found]
  · rename_i absent
    have none_there : fields.lookup key = none := Option.not_isSome_iff_eq_none.1 absent
    by_cases same : other = key
    · subst same
      simp [List.lookup_append, none_there]
    · simp [List.lookup_append, List.lookup_cons, beq_false_of_ne same, same]

/-- Putting changes what stands under one key. -/
theorem child?_put (tree : Tree) (key : Text) (child : Tree) (other : Text) :
    (tree.put key child).child? other =
      if other = key then some child else tree.child? other := by
  cases tree with
  | table origin? fields => exact lookup_putField fields key child other
  | scalar | list =>
    by_cases same : other = key
    · simp [put, child?, same]
    · simp [put, child?, List.lookup_cons, beq_false_of_ne same, same]

/-- The items with room at a position, and the position counted from the first of them. -/
def makeRoom (items : List Tree) (position : Int) : List Tree × Nat :=
  if 0 ≤ position then
    let index := position.toNat
    (items ++ List.replicate (index + 1 - items.length) null, index)
  else
    let back := (-position).toNat
    (List.replicate (back - items.length) null ++ items, items.length - back)

/-- The tree with the item at a position changed. What is no list gives way to one. -/
def alterItem (tree : Tree) (position : Int) (change : Tree → Tree) : Tree :=
  let (origin?, items) :=
    match tree with
    | list origin? items => (origin?, items)
    | _ => (none, [])
  let (items, index) := makeRoom items position
  .list origin? (items.modify index change)

/-! ## Merging -/

mutual

/-- Merges a value under a key. -/
def merge (key : Text) : Tree → Tree → Tree
  | .table _ fields, tree =>
    let key := foldCase key
    tree.put key (mergeFields fields ((tree.child? key).getD empty))
  | value, tree => tree.put (foldCase key) value

/-- Merges the fields of a table. -/
def mergeFields : List (Text × Tree) → Tree → Tree
  | [], tree => tree
  | (key, value) :: rest, tree => mergeFields rest (merge key value tree)

end

/-- **Merges a value under a key path**; everything on the way becomes a table or a list,
as the next step needs it. -/
def mergeAt (value : Tree) : KeyPath → Tree → Tree
  | [], _ => value
  | [.key key], tree => merge key value tree
  | .key key :: rest, tree =>
    let key := foldCase key
    tree.put key (mergeAt value rest ((tree.child? key).getD null))
  | .item position :: rest, tree => tree.alterItem position (mergeAt value rest)

/-- **Merges the table of a file.** A key at its top is read as a key path if it is
one, and taken as a single key if not. -/
def mergeFile (fields : List (Text × Tree)) (tree : Tree) : Tree :=
  fields.foldl
    (fun tree (key, value) => mergeAt value ((KeyPath.parse? key).getD [.key key]) tree) tree

end Tree

end MeshScript.Settings
