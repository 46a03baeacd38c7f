import MeshScript.Text.Scan
import MeshScript.Decimal.Binary64
/-!
# MeshScript.Toml.Number -- integers and floating point numbers

Digits may be grouped by single underscores between them. Decimal numbers have an
optional sign and no leading zeros; hexadecimal, octal and binary integers have a
marker in front and no sign. Integers have to fit into sixty-four bits with a sign. A
positive number too large for a floating point number is refused, a negative one
becomes the negative infinity.
-/

namespace MeshScript.Toml

/-- The value of a digit in a base up to sixteen. -/
def digitValue (c : Char) : Nat :=
  if c.isDigit then c.toNat - '0'.toNat
  else if 'a' ≤ c ∧ c ≤ 'f' then c.toNat - 'a'.toNat + 10
  else c.toNat - 'A'.toNat + 10

/-- The value of digits in a base; underscores do not count. -/
def valueOf (base : Nat) (digits : Text) : Nat :=
  (digits.filter (· != '_')).foldl (fun n c => base * n + digitValue c) 0

/-- Every underscore stands between two digits: none at the start or the end, none
next to another. -/
def wellGrouped (digits : Text) : Bool :=
  (digits.splitOn '_').all (!·.isEmpty)

/-- Grouped digits that satisfy the test. -/
def groupedDigits (isDigit : Char → Bool) : Scan Text := do
  let taken ← Scan.takeWhile1 fun c => isDigit c || c == '_'
  guard (wellGrouped taken)
  return taken

/-- The sign in front of a number: whether it is negative. -/
def sign : Scan Bool :=
  (do Scan.char '-'; return true) <|> (do discard (Scan.accept ['+']); return false)

/-- Grouped decimal digits without a leading zero. -/
def wholeDigits : Scan Text := do
  let taken ← groupedDigits Char.isDigit
  guard (taken.head? != some '0' || taken.length == 1)
  return taken

/-- The least and the greatest integer. -/
def fitsInteger (n : Int) : Bool :=
  -(Int.pow 2 63) ≤ n && n < Int.pow 2 63

/-- The digits of a base. -/
def isDigitOf (base : Nat) (c : Char) : Bool :=
  (c.isDigit || ('a' ≤ c && c ≤ 'f') || ('A' ≤ c && c ≤ 'F')) && digitValue c < base

/-- An integer with a marker in front. -/
def markedInteger (marker : Char) (base : Nat) : Scan Int := do
  Scan.literal ['0', marker]
  let n : Int := valueOf base (← groupedDigits (isDigitOf base))
  guard (fitsInteger n)
  return n

/-- A decimal integer. -/
def decimalInteger : Scan Int := do
  let negative ← sign
  let n : Int := valueOf 10 (← wholeDigits)
  let n := if negative then -n else n
  guard (fitsInteger n)
  return n

/-- **An integer.** -/
def integer : Scan Int :=
  markedInteger 'x' 16 <|> markedInteger 'o' 8 <|> markedInteger 'b' 2 <|> decimalInteger

/-- The exponent of a floating point number. -/
def exponentPart : Scan Int := do
  discard (Scan.satisfy fun c => c == 'e' || c == 'E')
  let negative ← sign
  let n : Int := valueOf 10 (← groupedDigits Char.isDigit)
  return if negative then -n else n

/-- The digits behind the point. -/
def fractionPart : Scan Text := do
  Scan.char '.'
  groupedDigits Char.isDigit

/-- A floating point number in digits, with a fraction, an exponent, or both. -/
def decimalFloat : Scan Binary64 := do
  let negative ← sign
  let whole ← wholeDigits
  let fraction ← Scan.optional fractionPart
  let exponent ← Scan.optional exponentPart
  guard (fraction.isSome || exponent.isSome)
  let places := (fraction.getD []).filter (· != '_')
  let x := Binary64.ofDecimal negative (valueOf 10 (whole ++ places))
    (exponent.getD 0 - places.length)
  guard (x != .infinite false)
  return x

/-- An infinity or the undefined number by name. -/
def specialFloat : Scan Binary64 := do
  let negative ← sign
  (do Scan.literal "inf".toList; return .infinite negative) <|>
    (do Scan.literal "nan".toList; return .nan)

/-- **A floating point number.** -/
def float : Scan Binary64 :=
  decimalFloat <|> specialFloat

end MeshScript.Toml
