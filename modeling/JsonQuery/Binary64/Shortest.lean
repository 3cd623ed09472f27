import JsonQuery.Binary64.Rounding
import JsonQuery.Decimal

/-! The shortest decimal that reads back as a given double, and among those of
that length the nearest to it. -/

namespace JsonQuery.Binary64

def ofDecimal (negative : Bool) (decimal : Decimal) : Binary64 :=
  if 0 ≤ decimal.exponent then
    nearest negative (decimal.coefficient * Nat.pow 10 decimal.exponent.toNat) 1
  else nearest negative decimal.coefficient (Nat.pow 10 (-decimal.exponent).toNat)

/-- Which of two equally near decimals of one length is written. -/
inductive Tie where
  | up
  | toEven
deriving DecidableEq

/-- The magnitude is the one nearest to the decimal. -/
def readsBack (units : Nat) (decimal : Decimal) : Bool :=
  match ofDecimal false decimal with
  | finite value => value.units == units
  | _ => false

/-- The power of ten of the first significant digit of a magnitude that is not zero. -/
def leadingPower (units : Nat) : Int :=
  ((Nat.toDigits 10 (units * Nat.pow 10 344 / Nat.pow 2 1074)).length : Int) - 345

/-- The magnitude divided by a power of ten, as numerator and denominator. -/
def scaled (units : Nat) (exponent : Int) : Nat × Nat :=
  if 0 ≤ exponent then (units, Nat.pow 2 1074 * Nat.pow 10 exponent.toNat)
  else (units * Nat.pow 10 (-exponent).toNat, Nat.pow 2 1074)

def prefersAbove (tie : Tie) (numerator denominator : Nat) : Bool :=
  let twice := 2 * (numerator % denominator)
  if twice < denominator then false
  else if denominator < twice then true
  else match tie with
    | .up => true
    | .toEven => numerator / denominator % 2 == 1

/-- The nearest decimal on a decimal grid that reads back, if any does. -/
def onGrid? (tie : Tie) (units : Nat) (exponent : Int) : Option Decimal :=
  let (numerator, denominator) := scaled units exponent
  let below : Decimal := ⟨numerator / denominator, exponent⟩
  let above : Decimal := ⟨numerator / denominator + 1, exponent⟩
  match readsBack units below, readsBack units above with
  | true, true => some (if prefersAbove tie numerator denominator then above else below)
  | true, false => some below
  | false, true => some above
  | false, false => none

def exactDecimal (units : Nat) : Decimal := ⟨units * Nat.pow 5 1074, -1074⟩

/-- The shortest decimal that reads back as the magnitude. -/
def shortest (tie : Tie) (units : Nat) : Decimal :=
  let found := (List.range 17).findSome? fun (extra : Nat) =>
    onGrid? tie units (leadingPower units - extra)
  let chosen := found.getD (exactDecimal units)
  Decimal.trimmed chosen.coefficient chosen.exponent

end JsonQuery.Binary64
