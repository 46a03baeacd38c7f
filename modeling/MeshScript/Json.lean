import MeshScript.Text.Search
/-!
# MeshScript.Json -- indented JSON

The values a report is made of, and their indented JSON text: two spaces per level,
one entry per line, a colon and a space behind a key, and `[]` or `{}` for nothing
inside. Within strings the quote, the backslash and the control characters below the
space are escaped; all other characters stand for themselves.
-/

namespace MeshScript

/-- **A JSON value**, as far as reports need it. -/
inductive Json
  | number (n : Nat)
  | string (text : Text)
  | array (items : List Json)
  | object (fields : List (Text × Json))

namespace Json

/-- A hexadecimal digit. -/
def hexDigit (n : Nat) : Char :=
  Nat.digitChar n

/-- One character of a string. -/
def escape (c : Char) : Text :=
  if c = '"' then ['\\', '"']
  else if c = '\\' then ['\\', '\\']
  else if c = '\n' then ['\\', 'n']
  else if c = '\r' then ['\\', 'r']
  else if c = '\t' then ['\\', 't']
  else if c = '\x08' then ['\\', 'b']
  else if c = '\x0c' then ['\\', 'f']
  else if c.toNat < 0x20 then
    ['\\', 'u', '0', '0', hexDigit (c.toNat / 16), hexDigit (c.toNat % 16)]
  else [c]

/-- A text as a JSON string. -/
def quoted (text : Text) : Text :=
  '"' :: text.flatMap escape ++ ['"']

/-- A new line at the given level of indentation. -/
def newline (level : Nat) : Text :=
  '\n' :: List.replicate (2 * level) ' '

/-- Lines between an opening and a closing character, with commas between them. -/
def block (level : Nat) (first last : Char) (lines : List Text) : Text :=
  if lines.isEmpty then [first, last]
  else
    first :: List.intercalate [','] (lines.map (newline (level + 1) ++ ·)) ++
      newline level ++ [last]

mutual

/-- The text of the value, whose first line stands at the given level. -/
def renderAt (level : Nat) : Json → Text
  | number n => Nat.toDigits 10 n
  | string text => quoted text
  | array items => block level '[' ']' (renderItems (level + 1) items)
  | object fields => block level '\x7b' '\x7d' (renderFields (level + 1) fields)

/-- The items of an array. -/
def renderItems (level : Nat) : List Json → List Text
  | [] => []
  | item :: rest => renderAt level item :: renderItems level rest

/-- The fields of an object. -/
def renderFields (level : Nat) : List (Text × Json) → List Text
  | [] => []
  | (key, value) :: rest =>
    (quoted key ++ ':' :: ' ' :: renderAt level value) :: renderFields level rest

end

/-- **The indented text** of the value. -/
def render (value : Json) : Text :=
  renderAt 0 value

end Json

end MeshScript
