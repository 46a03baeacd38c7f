import MeshScript.Text.Search
/-!
# MeshScript.Substitution.Rule -- the substitution rules

A rule fires on every line in which its trigger stands. What it writes depends only on
the line as earlier rules left it and on the base name of the output. The table is
fixed and its order matters: the rules are **not** mutually exclusive. All triggers
are tested on the line as it was, and every rule that fires edits what the one
before it left.
-/

namespace MeshScript

/-- **How a line is edited.** -/
inductive Edit
  /-- The whole line becomes `text`. -/
  | constant (text : Text)
  /-- The whole line becomes `<keyword> "<base>.<extension>";`, with a blank line
  behind it if asked for. -/
  | statement (keyword extension : Text) (blankAfter : Bool)
  /-- Every quoted `"<token>"` becomes the number of a physical group. -/
  | groupNumber (token : Text) (number : Nat)
  deriving DecidableEq, Repr

namespace Edit

/-- The token between double quotes. -/
def quote (token : Text) : Text :=
  '"' :: token ++ ['"']

/-- The line after the edit; `none` if the quoted token of a group is not there, and
the line then stays as it is. -/
def edited? (edit : Edit) (current base : Text) : Option Text :=
  match edit with
  | constant text => some text
  | statement keyword extension blankAfter =>
    some (keyword ++ " \"".toList ++ base ++ '.' :: extension ++ "\";".toList ++
      if blankAfter then ['\n'] else [])
  | groupNumber token number =>
    if current.includes (quote token) then
      some (current.replaceAll (quote token) (Nat.toDigits 10 number))
    else none

end Edit

/-- **A substitution rule.** -/
structure Rule where
  name : Text
  trigger : Text
  edit : Edit
  /-- The line before a match gets a blank line behind it. -/
  spacesPrevious : Bool := false
  /-- The surface list is taken from the matching line. -/
  givesSurfaces : Bool := false
  deriving DecidableEq, Repr

namespace Rule

/-- The trigger stands in the line. -/
def firesOn (rule : Rule) (line : Text) : Bool :=
  line.includes rule.trigger

/-- The line as the rule edits it; it need not fire for that. -/
def edited? (rule : Rule) (current base : Text) : Option Text :=
  rule.edit.edited? current base

/-! ## The table -/

/-- What marks the wall group, whose line also gives the surface list. -/
def wallToken : Text := "mg_wall".toList

/-- The rule that turns a quoted group token into its number. -/
def forGroup (name token : Text) (number : Nat) : Rule where
  name := name
  trigger := token
  edit := .groupNumber token number

/-- All rules, in the order in which they are applied. -/
def table : List Rule :=
  [ { name := "mesh-format".toList
      trigger := "Mesh.Format".toList
      edit := .constant "Mesh.Format = 1;".toList },
    { name := "algorithm-2d".toList
      trigger := "Mesh.Algorithm =".toList
      edit := .constant "Mesh.Algorithm = 1;".toList },
    { name := "algorithm-3d".toList
      trigger := "Mesh.Algorithm3D =".toList
      edit := .constant "Mesh.Algorithm3D = 10;".toList },
    { name := "element-order".toList
      trigger := "ElementOrder".toList
      edit := .constant "Mesh.ElementOrder = 1;".toList
      spacesPrevious := true },
    { name := "save".toList
      trigger := "Save".toList
      edit := .statement "Save".toList "msh".toList false },
    { name := "merge".toList
      trigger := "Merge".toList
      edit := .statement "Merge".toList "brep".toList true },
    { forGroup "wall-group".toList wallToken 1 with givesSurfaces := true },
    forGroup "symmetry-group".toList "mg_symmetry".toList 12,
    forGroup "farfield-group".toList "mg_farfield".toList 9,
    forGroup "interior-group".toList "mg_interog".toList 11,
    forGroup "volume-group".toList "mg_volume".toList 4 ]

/-- The rule of that name. -/
def named? (name : Text) : Option Rule :=
  table.find? (·.name = name)

/-- The rules that fire on a line, in table order. -/
def firing (line : Text) : List Rule :=
  table.filter (·.firesOn line)

end Rule

end MeshScript
