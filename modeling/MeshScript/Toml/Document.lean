import MeshScript.Toml.Quoted
import MeshScript.Toml.Number
import MeshScript.Toml.Wrapped
import MeshScript.Toml.Table
/-!
# MeshScript.Toml.Document -- reading a configuration file

A document is a sequence of lines: empty ones, assignments, and headers. The
assignments before the first header belong to the root, all others to the header
before them. `Toml.parse?` gives what the root stands for or refuses the document.

Arrays and tables within a line nest, and a key may have many parts; both have a depth
limit. The recursion is bounded by fuel, and `parse?` provides more of it than there
are characters.
-/

namespace MeshScript.Toml

/-- Arrays and inline tables nest less deeply than this, and a key has fewer parts. -/
def depthLimit : Nat := 80

/-! ## Keys -/

/-- A character of a key without quotes. -/
def isBareKeyChar (c : Char) : Bool :=
  c.isAlphanum || c == '_' || c == '-'

/-- One part of a key. -/
def simpleKey : Scan Text :=
  basicString <|> literalString <|> Scan.takeWhile1 isBareKeyChar

/-- The parts of a key behind its first one. -/
def moreKeys : Nat → Scan (List Text)
  | 0 => failure
  | fuel + 1 =>
    (do
      Scan.skipSpace
      Scan.char '.'
      Scan.skipSpace
      let part ← simpleKey
      return part :: (← moreKeys fuel)) <|> pure []

/-- **A key**: its parts, with dots between them. -/
def key : Scan (List Text) := do
  let first ← simpleKey
  let rest ← moreKeys ((← Scan.remaining) + 1)
  guard (rest.length + 1 < depthLimit)
  return first :: rest

/-! ## Values -/

/-- `true` or `false`. -/
def boolean : Scan Bool :=
  (do Scan.literal "true".toList; return true) <|>
    (do Scan.literal "false".toList; return false)

/-- A value that holds no other values. A date comes before a number, a floating point
number before an integer: each of them may start like the next. -/
def scalar : Scan Value :=
  (Value.string <$> anyString) <|> (Value.boolean <$> boolean) <|>
    (Value.datetime <$> datetime) <|> (Value.float <$> float) <|> (Value.integer <$> integer)

mutual

/-- A value, `depth` levels deep. -/
def value (fuel depth : Nat) : Scan Value :=
  match fuel with
  | 0 => failure
  | fuel + 1 => do
    match ← Scan.peek? with
    | some '[' =>
      guard (depth + 1 < depthLimit)
      Scan.char '['
      return .array (← arrayItems fuel (depth + 1))
    | some '\x7b' =>
      guard (depth + 1 < depthLimit)
      Scan.char '\x7b'
      Scan.skipSpace
      if ← Scan.accept ['\x7d'] then return .table []
      match Entries.setAll [] (← inlineFields fuel (depth + 1)) with
      | some entries => return .table (toFields entries)
      | none => failure
    | _ => scalar

/-- The rest of an array, behind its opening bracket or a comma. -/
def arrayItems (fuel depth : Nat) : Scan (List Value) :=
  match fuel with
  | 0 => failure
  | fuel + 1 => do
    skipFiller
    if ← Scan.accept [']'] then return []
    let item ← value fuel depth
    skipFiller
    if ← Scan.accept [','] then return item :: (← arrayItems fuel depth)
    Scan.char ']'
    return [item]

/-- The rest of an inline table, behind its opening brace or a comma. -/
def inlineFields (fuel depth : Nat) : Scan (List (List Text × Value)) :=
  match fuel with
  | 0 => failure
  | fuel + 1 => do
    Scan.skipSpace
    let keys ← key
    Scan.skipSpace
    Scan.char '='
    Scan.skipSpace
    let item ← value fuel depth
    Scan.skipSpace
    if ← Scan.accept [','] then return (keys, item) :: (← inlineFields fuel depth)
    Scan.char '\x7d'
    return [(keys, item)]

end

/-! ## Lines -/

/-- **A line** of a document that is not empty. -/
inductive Statement
  | assignment (keys : List Text) (value : Value)
  | header (keys : List Text)
  | itemHeader (keys : List Text)

/-- An assignment up to the end of its line. -/
def assignment : Scan Statement := do
  let keys ← key
  Scan.skipSpace
  Scan.char '='
  Scan.skipSpace
  let item ← value (2 * (← Scan.remaining) + 2) 0
  statementEnd
  return .assignment keys item

/-- A header up to the end of its line. -/
def header : Scan Statement := do
  Scan.char '['
  let forItem ← Scan.accept ['[']
  Scan.skipSpace
  let keys ← key
  Scan.skipSpace
  Scan.literal (if forItem then [']', ']'] else [']'])
  statementEnd
  return if forItem then .itemHeader keys else .header keys

/-- All lines from here on. -/
def statements : Nat → Scan (List Statement)
  | 0 => failure
  | fuel + 1 => do
    Scan.skipSpace
    match ← Scan.peek? with
    | none => return []
    | some '[' =>
      let first ← header
      return first :: (← statements fuel)
    | some '#' | some '\n' | some '\r' =>
      statementEnd
      statements fuel
    | some _ =>
      let first ← assignment
      return first :: (← statements fuel)

/-! ## Documents -/

/-- **The state of building a document**: the complete tables, the header under way
with the assignments below it, last one first. -/
structure Builder where
  done : Entries := []
  header? : Option Statement := none
  pending : List (List Text × Value) := []

/-- Completes the table under way. -/
def Builder.finish (builder : Builder) : Option Entries :=
  match builder.header? with
  | some (.header keys) => builder.done.declare keys builder.pending.reverse
  | some (.itemHeader keys) => builder.done.declareItem keys builder.pending.reverse
  | _ => builder.done.setAll builder.pending.reverse

/-- Takes up one line. -/
def Builder.add (builder : Builder) : Statement → Option Builder
  | .assignment keys value =>
    some { builder with pending := (keys, value) :: builder.pending }
  | header => do
    return { done := ← builder.finish, header? := some header }

/-- **Reads a document**: what its root stands for, or nothing if it is not well formed.
A byte order mark may stand at its start. The root is a table, unless it wraps a date. -/
def parse? (source : Text) : Option Value := do
  let source := if source.head? = some '\uFEFF' then source.tail else source
  let lines ← Text.read? source (statements (source.length + 1))
  let builder ← lines.foldlM Builder.add ({} : Builder)
  (Value.table (toFields (← builder.finish))).unwrap?

end MeshScript.Toml
