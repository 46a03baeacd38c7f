import MeshScript.Text.Scan
/-!
# MeshScript.Settings.KeyPath -- names of settings

A setting is named by an identifier and the steps from there: a dot and the identifier
of something within a table, or the position of an item in a list, between brackets.
Positions count from zero; a negative one counts from behind the last item.

Case does not matter: identifiers are compared in lower case. Only ASCII letters are
lowered, which is enough, since every name that is ever looked up is ASCII and holds no
`k`, the one letter to which a character outside ASCII is lowered.
-/

namespace MeshScript.Settings

/-- **A step** from a setting to one within it. -/
inductive Step
  | key (name : Text)
  | item (position : Int)
  deriving DecidableEq, Repr

/-- **A key path**: the steps from the root down, the first one by a key. -/
abbrev KeyPath : Type :=
  List Step

/-- A character of an identifier. -/
def isIdentifierChar (c : Char) : Bool :=
  c.isAlphanum || c == '_' || c == '-' || c == ' '

/-- The form in which identifiers are compared. -/
def foldCase (identifier : Text) : Text :=
  identifier.map Char.toLower

/-- The positions that a path can name. -/
def isPosition (n : Int) : Bool :=
  -(Int.pow 2 63) ≤ n && n < Int.pow 2 63

/-- A whole number, with a minus in front if it is negative. -/
def position : Scan Int := do
  let negative ← Scan.accept ['-']
  let digits ← Scan.takeWhile1 Char.isDigit
  let n : Int := digits.foldl (fun n c => 10 * n + (c.toNat - '0'.toNat)) (0 : Nat)
  let n := if negative then -n else n
  guard (isPosition n)
  return n

/-- A step by an identifier. -/
def keyStep : Scan Step :=
  .key <$> Scan.takeWhile1 isIdentifierChar

/-- A step by a position; space around it does not count. -/
def itemStep : Scan Step := do
  Scan.char '['
  Scan.skipSpace
  let n ← position
  Scan.skipSpace
  Scan.char ']'
  return .item n

/-- All steps from here on. -/
def steps : Nat → Scan (List Step)
  | 0 => failure
  | fuel + 1 => do
    if ← Scan.atEnd then return []
    let step ← (do Scan.char '.'; keyStep) <|> itemStep
    return step :: (← steps fuel)

/-- **Reads a key path.** -/
def KeyPath.parse? (text : Text) : Option KeyPath :=
  text.read? do
    let first ← keyStep
    return first :: (← steps (text.length + 1))

end MeshScript.Settings
