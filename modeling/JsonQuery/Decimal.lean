/-! Decimal numbers as a whole coefficient and a power of ten, the text of their
digits, and the grammar in which an unsigned number is written. -/

namespace JsonQuery

/-- The number `coefficient * 10 ^ exponent`. -/
structure Decimal where
  coefficient : Nat
  exponent : Int
deriving DecidableEq

namespace Decimal

/-- A whole number in decimal digits, with a minus sign if it is negative. -/
def integerText (value : Int) : List Char :=
  if value < 0 then '-' :: Nat.toDigits 10 value.natAbs else Nat.toDigits 10 value.natAbs

/-- The digits of the coefficient; zero has one. -/
def digits (decimal : Decimal) : List Char := Nat.toDigits 10 decimal.coefficient

/-- The power of ten of the first digit. -/
def leading (decimal : Decimal) : Int :=
  decimal.exponent + decimal.digits.length - 1

/-- The same number without zeros at the end of its coefficient. -/
def trimmed (coefficient : Nat) (exponent : Int) : Decimal :=
  if again : coefficient ≠ 0 ∧ coefficient % 10 = 0 then
    trimmed (coefficient / 10) (exponent + 1)
  else ⟨coefficient, exponent⟩
termination_by coefficient
decreasing_by omega

/-- The number without an exponent: its whole digits and those after the point. -/
def positional (decimal : Decimal) : List Char × List Char :=
  if 0 ≤ decimal.exponent then
    (decimal.digits ++ List.replicate decimal.exponent.toNat '0', [])
  else
    let places := (-decimal.exponent).toNat
    let count := decimal.digits.length
    if places < count then decimal.digits.splitAt (count - places)
    else (['0'], List.replicate (places - count) '0' ++ decimal.digits)

/-- An exponent in the range outside of which a number with so many digits is
certainly below or beyond every positive double. -/
def clampExponent (count : Nat) (exponent : Int) : Int :=
  max (-(count + 400 : Int)) (min 400 exponent)

def splitSign : List Char → Bool × List Char
  | '-' :: rest => (true, rest)
  | '+' :: rest => (false, rest)
  | text => (false, text)

/-- The exponent part after the mantissa: absent, or a letter `e`, a sign and digits. -/
def readExponent? : List Char → Option Int
  | [] => some 0
  | letter :: rest =>
    let (negative, written) := splitSign rest
    if letter.toLower = 'e' ∧ written ≠ [] ∧ written.all Char.isDigit then
      let size : Int := Nat.ofDigitChars 10 written 0
      some (if negative then -size else size)
    else none

def splitFraction : List Char → List Char × List Char
  | '.' :: rest => rest.span Char.isDigit
  | text => ([], text)

/-- Read an unsigned number: digits with at most one point among or around them,
then an optional exponent. -/
def read? (text : List Char) : Option Decimal := do
  let (whole, afterWhole) := text.span Char.isDigit
  let (fraction, afterFraction) := splitFraction afterWhole
  if whole = [] ∧ fraction = [] then none
  let exponent ← readExponent? afterFraction
  let written := whole ++ fraction
  return ⟨Nat.ofDigitChars 10 written 0,
    clampExponent written.length (exponent - fraction.length)⟩

end Decimal

end JsonQuery
