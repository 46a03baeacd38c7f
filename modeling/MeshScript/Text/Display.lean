import MeshScript.Text.Hidden
/-!
# MeshScript.Text.Display -- texts shown within messages

A text that is shown within a message stands in double quotes. Quotes, backslashes and
the usual control characters have their short escapes, and every other character that
is not shown by itself is given by its code.
-/

namespace MeshScript

/-- One character of a shown text. -/
def displayChar (c : Char) : Text :=
  if c = '"' then ['\\', '"']
  else if c = '\\' then ['\\', '\\']
  else if c = '\n' then ['\\', 'n']
  else if c = '\r' then ['\\', 'r']
  else if c = '\t' then ['\\', 't']
  else if c = '\x00' then ['\\', '0']
  else if isHidden c then
    '\\' :: 'u' :: '\x7b' :: Nat.toDigits 16 c.toNat ++ ['\x7d']
  else [c]

/-- **The text within a message.** -/
def Text.displayed (text : Text) : Text :=
  '"' :: text.flatMap displayChar ++ ['"']

end MeshScript
