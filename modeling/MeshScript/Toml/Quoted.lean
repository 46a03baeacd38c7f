import MeshScript.Toml.Lexical
/-!
# MeshScript.Toml.Quoted -- the four kinds of strings

Double quotes allow escapes, single quotes do not; three quotes instead of one allow
line ends. A line end right behind three opening quotes does not count, one written
as carriage return and line feed counts as a line feed, and a backslash at the end of
a line swallows all space and line ends behind it. Up to two quotes may stand directly
before three closing ones.
-/

namespace MeshScript.Toml

/-! ## Escapes -/

/-- The value of a hexadecimal digit. -/
def hexValue? (c : Char) : Option Nat :=
  if '0' ≤ c ∧ c ≤ '9' then some (c.toNat - '0'.toNat)
  else if 'a' ≤ c ∧ c ≤ 'f' then some (c.toNat - 'a'.toNat + 10)
  else if 'A' ≤ c ∧ c ≤ 'F' then some (c.toNat - 'A'.toNat + 10)
  else none

/-- The character with this hexadecimal code, if there is one. -/
def scalar? (code : Text) : Option Char := do
  let n ← code.foldlM (fun n c => return 16 * n + (← hexValue? c)) 0
  if h : n.isValidChar then some (Char.ofNatAux n h) else none

/-- The character that a backslash and this letter stand for. -/
def escaped? (c : Char) : Option Char :=
  match c with
  | 'b' => some '\x08'
  | 't' => some '\t'
  | 'n' => some '\n'
  | 'f' => some '\x0c'
  | 'r' => some '\r'
  | '"' => some '"'
  | '\\' => some '\\'
  | _ => none

/-- A character read before the rest. -/
def before (c : Char) (rest : Option (Text × Text)) : Option (Text × Text) :=
  rest.map fun (read, left) => (c :: read, left)

/-! ## One line -/

/-- The rest of a string in double quotes, behind its opening quote. -/
def basicFrom : Text → Option (Text × Text)
  | [] => none
  | '"' :: rest => some ([], rest)
  | '\\' :: 'u' :: a :: b :: c :: d :: rest => do
    before (← scalar? [a, b, c, d]) (basicFrom rest)
  | '\\' :: 'U' :: a :: b :: c :: d :: e :: f :: g :: h :: rest => do
    before (← scalar? [a, b, c, d, e, f, g, h]) (basicFrom rest)
  | '\\' :: c :: rest => do before (← escaped? c) (basicFrom rest)
  | c :: rest => if isPlain c && c != '\\' then before c (basicFrom rest) else none

/-- A string in double quotes on one line. -/
def basicString : Scan Text := do
  Scan.char '"'
  Scan.ofFunction basicFrom

/-- A string in single quotes on one line. -/
def literalString : Scan Text := do
  Scan.char '\''
  let text ← Scan.takeWhile fun c => isPlain c && c != '\''
  Scan.char '\''
  return text

/-! ## Several lines -/

/-- Up to two more of the quotes that close a string; they belong to it. -/
def lateQuotes (quote : Char) (rest : Text) : Text × Text :=
  let more := min 2 (rest.takeWhile (· == quote)).length
  (List.replicate more quote, rest.drop more)

/-- A backslash before this text ends its line. -/
def endsLine (text : Text) : Bool :=
  match text.dropWhile Scan.isSpace with
  | '\n' :: _ => true
  | '\r' :: '\n' :: _ => true
  | _ => false

/-- The rest of a string in three double quotes. While `skipping`, space and line ends
are swallowed. -/
def basicBlockFrom (skipping : Bool) : Text → Option (Text × Text)
  | [] => none
  | '"' :: '"' :: '"' :: rest => some (lateQuotes '"' rest)
  | '\r' :: '\n' :: rest =>
    if skipping then basicBlockFrom true rest else before '\n' (basicBlockFrom false rest)
  | '\n' :: rest =>
    if skipping then basicBlockFrom true rest else before '\n' (basicBlockFrom false rest)
  | '\\' :: 'u' :: a :: b :: c :: d :: rest => do
    before (← scalar? [a, b, c, d]) (basicBlockFrom false rest)
  | '\\' :: 'U' :: a :: b :: c :: d :: e :: f :: g :: h :: rest => do
    before (← scalar? [a, b, c, d, e, f, g, h]) (basicBlockFrom false rest)
  | '\\' :: c :: rest =>
    match escaped? c with
    | some e => before e (basicBlockFrom false rest)
    | none => if endsLine (c :: rest) then basicBlockFrom true rest else none
  | c :: rest =>
    if skipping && Scan.isSpace c then basicBlockFrom true rest
    else if isPlain c then before c (basicBlockFrom false rest)
    else none

/-- The rest of a string in three single quotes. -/
def literalBlockFrom : Text → Option (Text × Text)
  | [] => none
  | '\'' :: '\'' :: '\'' :: rest => some (lateQuotes '\'' rest)
  | '\r' :: '\n' :: rest => before '\n' (literalBlockFrom rest)
  | '\n' :: rest => before '\n' (literalBlockFrom rest)
  | c :: rest => if isPlain c then before c (literalBlockFrom rest) else none

/-- A string in three double quotes. -/
def basicBlock : Scan Text := do
  Scan.literal ['"', '"', '"']
  discard (Scan.optional newline)
  Scan.ofFunction (basicBlockFrom false)

/-- A string in three single quotes. -/
def literalBlock : Scan Text := do
  Scan.literal ['\'', '\'', '\'']
  discard (Scan.optional newline)
  Scan.ofFunction literalBlockFrom

/-- **A string** of any kind. Three quotes open a block, never an empty string. -/
def anyString : Scan Text := do
  if ← Scan.sees ['"', '"', '"'] then basicBlock
  else if ← Scan.sees ['\'', '\'', '\''] then literalBlock
  else basicString <|> literalString

end MeshScript.Toml
