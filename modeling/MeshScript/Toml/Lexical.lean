import MeshScript.Text.Scan
/-!
# MeshScript.Toml.Lexical -- line ends, comments and filler

What separates the statements of a document and the items of an array: line ends,
comments, and space.
-/

namespace MeshScript.Toml

/-- A character that may stand in a comment and, quotes and backslashes apart, in a
string: all but the control characters other than the tab. -/
def isPlain (c : Char) : Bool :=
  c == '\t' || (0x20 ≤ c.toNat && c.toNat != 0x7F)

/-- Takes a comment, from its number sign to the end of the line, if one comes next. -/
def skipComment : Scan Unit := do
  if ← Scan.accept ['#'] then discard (Scan.takeWhile isPlain)

/-- Takes a line end: a line feed, perhaps after a carriage return. -/
def newline : Scan Unit :=
  Scan.char '\n' <|> Scan.literal ['\r', '\n']

/-- The end of a statement: space, a comment, and a line end or the end of the text. -/
def statementEnd : Scan Unit := do
  Scan.skipSpace
  skipComment
  if !(← Scan.atEnd) then newline

/-- **The scan of `skipFiller`**; `comment` tells whether it is within a comment. -/
def fillerFrom (comment : Bool) : Text → Option Text
  | [] => some []
  | '\n' :: rest => fillerFrom false rest
  | '\r' :: '\n' :: rest => fillerFrom false rest
  | c :: rest =>
    if comment then
      if isPlain c then fillerFrom true rest else none
    else if Scan.isSpace c then fillerFrom false rest
    else if c = '#' then fillerFrom true rest
    else some (c :: rest)

/-- Skips what may stand between the items of an array: space, line ends, comments. -/
def skipFiller : Scan Unit := fun text =>
  (fillerFrom false text).map ((), ·)

end MeshScript.Toml
