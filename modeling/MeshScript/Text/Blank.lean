import MeshScript.Text.Search
/-!
# MeshScript.Text.Blank -- white space, blank lines and trimming

White space is the Unicode property `White_Space`, twenty-five characters. A line
is blank when it holds nothing else, and `trim` takes white space off both ends.
-/

namespace MeshScript

/-- The Unicode property `White_Space`. -/
def isWhiteSpace (c : Char) : Bool :=
  let code := c.toNat
  (0x09 ≤ code && code ≤ 0x0D) || code == 0x20 || code == 0x85 || code == 0xA0 ||
    code == 0x1680 || (0x2000 ≤ code && code ≤ 0x200A) || code == 0x2028 ||
    code == 0x2029 || code == 0x202F || code == 0x205F || code == 0x3000

namespace Text

/-- **A blank text** holds nothing but white space. -/
def isBlank (text : Text) : Bool :=
  text.all isWhiteSpace

/-- The text without the white space at its start. -/
def trimStart (text : Text) : Text :=
  text.dropWhile isWhiteSpace

/-- The text without the white space at its end. -/
def trimEnd (text : Text) : Text :=
  (text.reverse.dropWhile isWhiteSpace).reverse

/-- The text without the white space at either end. -/
def trim (text : Text) : Text :=
  text.trimStart.trimEnd

end Text

end MeshScript
