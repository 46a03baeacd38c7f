import MeshScript.Text.Search
import MeshScript.Decimal.Binary64
/-!
# MeshScript.Decimal.Shortest -- the fewest digits that read back

Every decimal fraction in the rounding interval of a number reads back as that
number. `shortest` takes the coarsest decimal grid that has a point in the interval
and on it the point nearest to the number, the greater one if two are equally near.
It suffices to test the two neighbours of the number on each grid: if any point of a
grid lies in the interval, one of them does.

`Binary64.text` lays the digits out in positional notation, however long that gets,
and gives whole numbers no fraction.
-/

namespace MeshScript.Binary64

/-- `x` lies where it is rounded to this number; the ends count for even mantissas. -/
def readsBack (mantissa : Nat) (exponent : Int) (x : Rat) : Bool :=
  let value := magnitude mantissa exponent
  let half := (2 : Rat) ^ (exponent - 1)
  let below := if mantissa = mantissaLimit / 2 ∧ minExponent < exponent then half / 2 else half
  if mantissa % 2 = 0 then value - below ≤ x && x ≤ value + half
  else value - below < x && x < value + half

/-- The `e` with `10 ^ (e - 1) ≤ x < 10 ^ e`, for positive `x`. -/
def decimalExponent (x : Rat) : Int :=
  let size (n : Nat) : Int := (Nat.toDigits 10 n).length
  let estimate := size x.num.natAbs - size x.den
  if (10 : Rat) ^ estimate ≤ x then estimate + 1 else estimate

/-- The neighbour of the number on the grid `10 ^ power` that reads back and is
nearest, as its multiple of the grid unit. -/
def nearestOnGrid (mantissa : Nat) (exponent power : Int) (accepts : Rat → Bool) : Option Nat :=
  let value := magnitude mantissa exponent
  let unit := (10 : Rat) ^ power
  let lower := (value / unit).floor.toNat
  let upper := lower + 1
  match accepts (lower * unit), accepts (upper * unit) with
  | true, true => if value - lower * unit < upper * unit - value then lower else upper
  | true, false => lower
  | false, true => upper
  | false, false => none

/-- **The fewest digits that read back**, as `digits * 10 ^ power`, for a positive
mantissa. Seventeen digits always do. -/
def shortest (mantissa : Nat) (exponent : Int) : Nat × Int :=
  let top := decimalExponent (magnitude mantissa exponent)
  let found := (List.range 17).findSome? fun (extra : Nat) =>
    let power := top - 1 - extra
    (nearestOnGrid mantissa exponent power (readsBack mantissa exponent)).map (·, power)
  found.getD (0, 0)

/-- Digits without the zeros at their end, and the power of ten raised for them. -/
def trimZeros (digits : Text) (power : Int) : Text × Int :=
  let zeros := (digits.reverse.takeWhile (· == '0')).length
  (digits.take (digits.length - zeros), power + zeros)

/-- Digits times a power of ten in positional notation. -/
def positional (digits : Text) (power : Int) : Text :=
  if 0 ≤ power then digits ++ List.replicate power.toNat '0'
  else
    let places := (-power).toNat
    if places < digits.length then
      digits.take (digits.length - places) ++ '.' :: digits.drop (digits.length - places)
    else '0' :: '.' :: List.replicate (places - digits.length) '0' ++ digits

/-- **The text of a number**: its shortest digits in positional notation. -/
def text : Binary64 → Text
  | nan => "NaN".toList
  | infinite negative => (if negative then "-inf" else "inf").toList
  | finite negative mantissa exponent =>
    let sign : Text := if negative then ['-'] else []
    if mantissa = 0 then sign ++ ['0']
    else
      let (digits, power) := shortest mantissa exponent
      let (digits, power) := trimZeros (Nat.toDigits 10 digits) power
      sign ++ positional digits power

/-- The number is neither infinite nor undefined. -/
def isFinite : Binary64 → Bool
  | finite .. => true
  | _ => false

/-- The text of a number that tells it from an integer: `.0` follows a whole number. -/
def textWithPoint (x : Binary64) : Text :=
  if x.isFinite && !x.text.contains '.' then x.text ++ ".0".toList else x.text

end MeshScript.Binary64
