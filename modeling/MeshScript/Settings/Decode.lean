import MeshScript.Settings.Tree
import MeshScript.Decimal.Shortest
import MeshScript.Text.Display
/-!
# MeshScript.Settings.Decode -- the settings that are in a tree

The settings have two sections, `scratch` with four fields and `output` with one. All
fields are texts; numbers and truth values are taken by their text. A section is a
table of its fields or a list of them in order. Settings that are in no section and
fields that a section does not have are ignored.
-/

namespace MeshScript

/-- **Why settings cannot be loaded.** -/
inductive SettingsError
  /-- The name of an override is no key path. -/
  | invalidKey
  /-- A document is not well formed. -/
  | malformed
  /-- The root of a document stands for something that is no table. -/
  | rootNotTable (found : Text) (origin? : Option Path)
  /-- A configuration file that has to be there is not. -/
  | fileNotFound (path : Path)
  /-- A configuration file that has to be there cannot be read. -/
  | unreadableFile (cause : FileError)
  /-- A field holds something that is no text and has none. -/
  | fieldNotText (found key : Text) (origin? : Option Path)
  /-- A section holds something that is neither a table nor a list. -/
  | notASection (found label : Text)
  /-- A list is too short for the fields of its section. -/
  | tooFewItems (count : Nat) (label : Text) (expected : Nat)
  /-- A section lacks a field. -/
  | missingField (name : Text)
  deriving DecidableEq, Repr

namespace Settings

/-! ## Wording -/

/-- The text between backticks. -/
def inBackticks (text : Text) : Text :=
  '\x60' :: text ++ ['\x60']

/-- The text of a whole number. -/
def integerText (n : Int) : Text :=
  if n < 0 then '-' :: Nat.toDigits 10 n.natAbs else Nat.toDigits 10 n.natAbs

/-- The text of a truth value. -/
def booleanText (b : Bool) : Text :=
  (if b then "true" else "false").toList

/-- How an unexpected value is described. -/
def Scalar.description : Scalar → Text
  | null => "unit value".toList
  | boolean b => "boolean ".toList ++ inBackticks (booleanText b)
  | integer n => "integer ".toList ++ inBackticks (integerText n)
  | float x => "floating point ".toList ++ inBackticks x.textWithPoint
  | text t => "string ".toList ++ t.displayed

/-- How an unexpected tree is described. -/
def Tree.description : Tree → Text
  | scalar _ value => value.description
  | list _ _ => "sequence".toList
  | table _ _ => "map".toList

/-- The file a tree was read from. -/
def Tree.origin? : Tree → Option Path
  | scalar origin? _ => origin?
  | list origin? _ => origin?
  | table origin? _ => origin?

end Settings

/-- The wording of the failure. -/
def SettingsError.message : SettingsError → Text
  | invalidKey => "invalid key".toList
  | malformed => "TOML parse error".toList
  | rootNotTable found origin? =>
    "invalid type: ".toList ++ found ++ ", expected a map".toList ++
      match origin? with
      | some origin => " in ".toList ++ origin ++ " in ".toList ++ origin
      | none => []
  | fileNotFound path =>
    "configuration file \"".toList ++ path ++ "\" not found".toList
  | unreadableFile cause => cause.message
  | fieldNotText found key origin? =>
    "invalid type: ".toList ++ found ++ ", expected a string for key ".toList ++
      Settings.inBackticks key ++
      match origin? with
      | some origin => " in ".toList ++ origin
      | none => []
  | notASection found label =>
    "invalid type: ".toList ++ found ++ ", expected struct ".toList ++ label
  | tooFewItems count label expected =>
    "invalid length ".toList ++ Nat.toDigits 10 count ++ ", expected struct ".toList ++ label ++
      " with ".toList ++ Nat.toDigits 10 expected ++
      (if expected = 1 then " element" else " elements").toList
  | missingField name => "missing field ".toList ++ Settings.inBackticks name

namespace Settings

/-! ## Fields -/

/-- The text of a value, if it has one. -/
def Scalar.asText? : Scalar → Option Text
  | boolean b => some (booleanText b)
  | integer n => some (integerText n)
  | float x => some x.text
  | text t => some t
  | null => none

/-- The text of a tree, if it is a single value that has one. -/
def Tree.asText? : Tree → Option Text
  | scalar _ value => value.asText?
  | list _ _ => none
  | table _ _ => none

/-- The text of a field. `key` is its full name. -/
def fieldText (key : Text) (tree : Tree) : Except SettingsError Text :=
  match tree.asText? with
  | some text => .ok text
  | none => .error (.fieldNotText tree.description key tree.origin?)

/-! ## Sections -/

/-- **A section**: its name, how failures call it, and its fields in order. -/
structure Section where
  name : Text
  label : Text
  fields : List Text

/-- Where the mesh export leaves its files. -/
def scratchSection : Section where
  name := "scratch".toList
  label := "ScratchConfig".toList
  fields := ["dir".toList, "script".toList, "geometry_suffix".toList,
    "geometry_extension".toList]

/-- Where the results go. -/
def outputSection : Section where
  name := "output".toList
  label := "OutputConfig".toList
  fields := ["dir".toList]

/-- The fields of a section, each with its text. -/
abbrev FieldTexts : Type :=
  List (Text × Text)

/-- The fields of a section that is a table. A field that is no text fails before one
that is missing. -/
def readTable (shape : Section) (fields : List (Text × Tree)) :
    Except SettingsError FieldTexts := do
  let present ← shape.fields.filterMapM fun field =>
    match fields.lookup field with
    | none => .ok none
    | some tree => do
      return some (field, ← fieldText (shape.name ++ '.' :: field) tree)
  match shape.fields.find? fun field => (present.lookup field).isNone with
  | some missing => throw (.missingField missing)
  | none => return present

/-- The fields of a section that is a list. -/
def readList (shape : Section) (items : List Tree) : Except SettingsError FieldTexts := do
  let present ← (shape.fields.zip items).zipIdx.mapM fun ((field, item), index) => do
    let key := shape.name ++ '[' :: Nat.toDigits 10 index ++ [']']
    return (field, ← fieldText key item)
  if items.length < shape.fields.length then
    throw (.tooFewItems items.length shape.label shape.fields.length)
  return present

/-- **The fields of a section** with their texts. -/
def readSection (shape : Section) (tree : Tree) : Except SettingsError FieldTexts :=
  match tree.child? shape.name with
  | none => .error (.missingField shape.name)
  | some (.table _ fields) => readTable shape fields
  | some (.list _ items) => readList shape items
  | some (.scalar _ value) => .error (.notASection value.description shape.label)

/-- The text of one field. -/
def textOf (fields : FieldTexts) (name : String) : Text :=
  (fields.lookup name.toList).getD []

/-- **The settings that are in a tree.** -/
def Tree.configuration (tree : Tree) : Except SettingsError Configuration := do
  let scratch ← readSection scratchSection tree
  let output ← readSection outputSection tree
  return {
    scratch :=
      { dir := textOf scratch "dir"
        script := textOf scratch "script"
        geometrySuffix := textOf scratch "geometry_suffix"
        geometryExtension := textOf scratch "geometry_extension" }
    output := { dir := textOf output "dir" } }

end Settings

end MeshScript
