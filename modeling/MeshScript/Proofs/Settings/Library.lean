import MeshScript.Settings
import MeshScript.Settings.KeyPath
/-!
# MeshScript.Proofs.Settings.Library -- what is promised about putting settings together

`Library.Documented` states what the documentation of a library says about its operations, one
operation at a time: sources are merged in order and key by key, without regard to case; overrides
go over all sources; what is built is decoded setting by setting. Only documents with nothing but
texts in the two tables are spoken of (`SectionsOnly`), and only overrides of single settings.

None of this says which layer decides when there are several: that is what
`MeshScript.Proofs.Settings.Precedence` derives from it.
-/

namespace MeshScript.Settings

/-! ## Documents with nothing but texts -/

section Under

variable {α : Type}

/-- What is under a name in a list of keys and values, in whatever case its key is written. -/
def under? (fields : List (Text × α)) (name : Text) : Option α :=
  (fields.map fun (key, value) => (foldCase key, value)).lookup name

/-- **Distinct keys**, up to case. -/
def DistinctKeys (fields : List (Text × α)) : Prop :=
  (fields.map fun entry => foldCase entry.1).Nodup

instance (fields : List (Text × α)) : Decidable (DistinctKeys fields) :=
  inferInstanceAs (Decidable (List.Nodup _))

end Under

/-- The value is a text. -/
def isText : Toml.Value → Bool
  | .string _ => true
  | _ => false

/-- **A section of a document**: a table with nothing but texts, under distinct keys. -/
def IsSection : Toml.Value → Prop
  | .table fields => (∀ entry ∈ fields, isText entry.2 = true) ∧ DistinctKeys fields
  | _ => False

instance : DecidablePred IsSection
  | .table _ => inferInstanceAs (Decidable (_ ∧ _))
  | .string _ | .integer _ | .float _ | .boolean _ | .datetime _ | .array _ => isFalse id

/-- **Nothing but the two sections** is in a document, in whatever case their names are
written. -/
def SectionsOnly (fields : List (Text × Toml.Value)) : Prop :=
  (∀ entry ∈ fields,
    (foldCase entry.1 = Field.table .scratchDir ∨ foldCase entry.1 = Field.table .outputDir) ∧
      IsSection entry.2) ∧
    DistinctKeys fields

instance (fields : List (Text × Toml.Value)) : Decidable (SectionsOnly fields) :=
  inferInstanceAs (Decidable (_ ∧ _))

/-- The fields of a table. -/
def fieldsOf? : Toml.Value → Option (List (Text × Toml.Value))
  | .table fields => some fields
  | _ => none

theorem fieldsOf?_eq_some {value : Toml.Value} {fields : List (Text × Toml.Value)} :
    fieldsOf? value = some fields ↔ value = .table fields := by
  cases value <;> simp [fieldsOf?]

/-- The text that a section of a document has for a name. -/
def textUnder? (value : Toml.Value) (name : Text) : Option Text :=
  match value with
  | .table fields =>
    match under? fields name with
    | some (.string text) => some text
    | _ => none
  | _ => none

/-- **The text that a document has for a setting.** -/
def Field.textIn? (field : Field) (fields : List (Text × Toml.Value)) : Option Text :=
  (under? fields field.table).bind (textUnder? · field.name)

/-! ## The promises -/

namespace Library

variable (library : Library)

/-- **What a source says**: the fields of its document. A file that need not be there and is not
says nothing. -/
def Reads (files : FileSystem) : Source → List (Text × Toml.Value) → Prop
  | .text source, fields => library.parse? source = some (.table fields)
  | .file path required, fields =>
    (required = false ∧ library.find? files path = none ∧ fields = []) ∨
      ∃ found source, library.find? files path = some found ∧
        files.readText found = .ok source ∧ library.parse? source = some (.table fields)

/-- The builder with these sources and no overrides. -/
def ofSources (sources : List Source) : library.Builder :=
  sources.foldl library.addSource library.new

/-- **A builder that overrides single settings**, each by a text. -/
inductive OverridesSettings : library.Builder → Prop
  | sources (sources : List Source) : OverridesSettings (library.ofSources sources)
  | override {builder next : library.Builder} {field : Field} {text : Text} :
    OverridesSettings builder → library.setOverride builder field.key (.text text) = .ok next →
      OverridesSettings next

/-- **What the documentation promises.** -/
structure Documented : Prop where
  /-- The built-in text is well formed, and has the built-in settings. -/
  parse?_defaultText : ∃ fields, library.parse? defaultText = some (.table fields) ∧
    SectionsOnly fields ∧ ∀ field, field.textIn? fields = some (({} : Layout).setting field)
  /-- Without sources there are no texts. -/
  build_new (files : FileSystem) : ∃ built, library.build files library.new = .ok built ∧
    ∀ field, library.text? built field = none
  /-- A source goes over those before it, key by key. -/
  build_addSource {files : FileSystem} {sources : List Source} {built : library.Built}
    {source : Source} {fields : List (Text × Toml.Value)} :
    library.build files (library.ofSources sources) = .ok built →
    library.Reads files source fields → SectionsOnly fields →
    ∃ next, library.build files (library.addSource (library.ofSources sources) source) = .ok next ∧
      ∀ field, library.text? next field = (field.textIn? fields).or (library.text? built field)
  /-- The key of a setting can be overridden. -/
  setOverride_key (builder : library.Builder) (field : Field) (text : Text) :
    ∃ next, library.setOverride builder field.key (.text text) = .ok next
  /-- An override goes over all sources, so it does not matter which of the two comes first. -/
  setOverride_addSource {builder next : library.Builder} {key : Text} {value : Scalar}
    (source : Source) : library.setOverride builder key value = .ok next →
    library.setOverride (library.addSource builder source) key value =
      .ok (library.addSource next source)
  /-- An override sets one text, also over an earlier override. -/
  build_setOverride {files : FileSystem} {builder next : library.Builder} {built : library.Built}
    {field : Field} {text : Text} :
    library.OverridesSettings builder → library.build files builder = .ok built →
    library.setOverride builder field.key (.text text) = .ok next →
    ∃ result, library.build files next = .ok result ∧ ∀ other, library.text? result other =
      if other = field then some text else library.text? built other
  /-- Settings that all have a text are decoded. -/
  decode_texts {built : library.Built} {texts : Field → Text} :
    (∀ field, library.text? built field = some (texts field)) →
    ∃ configuration, library.decode built = .ok configuration ∧ configuration.setting = texts

end Library

end MeshScript.Settings
