/-!
# MeshScript.Decimal.Binary64 -- binary floating point numbers of 64 bits

A finite number is a sign, a mantissa below `2 ^ 53` and an exponent of two from
`-1074` to `971`; its value is exact in the rationals. `Binary64.ofDecimal` rounds a
decimal fraction to the nearest number, a tie to the even mantissa, and gives an
infinity where the rounded mantissa has no exponent.

No machine arithmetic is involved.
-/

namespace MeshScript

/-- **A binary floating point number.** -/
inductive Binary64
  | finite (negative : Bool) (mantissa : Nat) (exponent : Int)
  | infinite (negative : Bool)
  | nan
  deriving DecidableEq, Repr

namespace Binary64

/-- The mantissas stay below this. -/
def mantissaLimit : Nat := Nat.pow 2 53

/-- The exponents of finite numbers. -/
def minExponent : Int := -1074

/-- The exponents of finite numbers. -/
def maxExponent : Int := 971

/-- The integer nearest to `x`; of two equally near ones the even one. -/
def roundHalfEven (x : Rat) : Int :=
  let below := x.floor
  let rest := x - below
  if rest < 1 / 2 then below
  else if 1 / 2 < rest then below + 1
  else if below % 2 = 0 then below else below + 1

/-- The exponent of the greatest power of two that is at most `x`, for positive `x`. -/
def log2Floor (x : Rat) : Int :=
  let estimate : Int := (Nat.log2 x.num.natAbs : Int) - Nat.log2 x.den
  if (2 : Rat) ^ estimate ≤ x then estimate else estimate - 1

/-- The number nearest to the magnitude `x`, which is not negative. -/
def round (negative : Bool) (x : Rat) : Binary64 :=
  if x = 0 then finite negative 0 minExponent
  else
    let exponent := max (log2Floor x - 52) minExponent
    let mantissa := (roundHalfEven (x / (2 : Rat) ^ exponent)).toNat
    let carried := mantissa = mantissaLimit
    let mantissa := if carried then mantissa / 2 else mantissa
    let exponent := if carried then exponent + 1 else exponent
    if maxExponent < exponent then infinite negative else finite negative mantissa exponent

/-- **The number nearest to `digits * 10 ^ power`**, with the given sign. Powers far
beyond the range are cut off before any large number is formed. -/
def ofDecimal (negative : Bool) (digits : Nat) (power : Int) : Binary64 :=
  let magnitude := (Nat.toDigits 10 digits).length + power
  if digits = 0 ∨ magnitude < -400 then finite negative 0 minExponent
  else if 400 < magnitude then infinite negative
  else round negative ((digits : Rat) * (10 : Rat) ^ power)

/-- The value of a mantissa and an exponent. -/
def magnitude (mantissa : Nat) (exponent : Int) : Rat :=
  (mantissa : Rat) * (2 : Rat) ^ exponent

example : ofDecimal false 15 (-1) = finite false (3 * 2 ^ 51) (-52) := by decide +kernel
example : ofDecimal false 5 (-324) = finite false 1 (-1074) := by decide +kernel
example : ofDecimal true 1 3 = finite true 8796093022208000 (-43) := by decide +kernel
example : ofDecimal false 2 308 = infinite false := by decide +kernel

end Binary64

end MeshScript
