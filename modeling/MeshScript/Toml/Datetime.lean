import MeshScript.Text.Scan
/-!
# MeshScript.Toml.Datetime -- dates and times

A date, a time, or both with a letter or a space between them, and then perhaps the
offset from universal time. Days are checked against the calendar. What is read is
given back in one normal form: `T` in the middle, `Z` or a signed offset at the end,
and at most nine places of a second without zeros at their end.

The rules are the same for a date that stands in a document by itself and for one that
is the text of a string.
-/

namespace MeshScript.Toml

/-- The number with at least `width` digits. -/
def padded (width n : Nat) : Text :=
  let digits := Nat.toDigits 10 n
  List.replicate (width - digits.length) '0' ++ digits

/-- The years with a twenty-ninth of February. -/
def isLeapYear (year : Nat) : Bool :=
  year % 4 == 0 && (year % 100 != 0 || year % 400 == 0)

/-- The number of days of a month. -/
def daysOfMonth (year month : Nat) : Nat :=
  if month = 2 then if isLeapYear year then 29 else 28
  else if month ∈ [4, 6, 9, 11] then 30
  else 31

/-- A date. -/
def date : Scan Text := do
  let year ← Scan.digits 4
  Scan.char '-'
  let month ← Scan.digits 2
  Scan.char '-'
  let day ← Scan.digits 2
  guard (1 ≤ month && month ≤ 12 && 1 ≤ day && day ≤ daysOfMonth year month)
  return padded 4 year ++ '-' :: padded 2 month ++ '-' :: padded 2 day

/-- The fraction of a second, cut off behind nine places. -/
def secondFraction : Scan Text := do
  Scan.char '.'
  let places ← Scan.takeWhile1 Char.isDigit
  let kept := ((places.take 9).reverse.dropWhile (· == '0')).reverse
  return if kept.isEmpty then [] else '.' :: kept

/-- A time of day; a minute may have a sixty-first second. -/
def time : Scan Text := do
  let hour ← Scan.digits 2
  Scan.char ':'
  let minute ← Scan.digits 2
  Scan.char ':'
  let second ← Scan.digits 2
  guard (hour ≤ 23 && minute ≤ 59 && second ≤ 60)
  let fraction ← Scan.optional secondFraction
  return padded 2 hour ++ ':' :: padded 2 minute ++ ':' :: padded 2 second ++ fraction.getD []

/-- The offset from universal time, less than a day. No offset at all is never given back
with a minus. -/
def offset : Scan Text :=
  (do
    discard (Scan.satisfy fun c => c == 'Z' || c == 'z')
    return ['Z']) <|>
  (do
    let direction ← Scan.satisfy fun c => c == '+' || c == '-'
    let hours ← Scan.digits 2
    Scan.char ':'
    let minutes ← Scan.digits 2
    guard (hours ≤ 23 && minutes ≤ 59)
    let direction := if hours = 0 && minutes = 0 then '+' else direction
    return direction :: padded 2 hours ++ ':' :: padded 2 minutes)

/-- A time behind a date, with its offset. -/
def timeOfDate : Scan Text := do
  discard (Scan.satisfy fun c => c == 'T' || c == 't' || c == ' ')
  let time ← time
  let offset ← Scan.optional offset
  return 'T' :: time ++ offset.getD []

/-- **A date, a time, or both**, in normal form. -/
def datetime : Scan Text :=
  (do
    let date ← date
    let rest ← Scan.optional timeOfDate
    return date ++ rest.getD []) <|> time

end MeshScript.Toml
