/-! Double precision numbers as exact values. A finite number is a sign and a
whole count of units of `2^-1074`, so that order and equality are those of the
integers. The count is one a double can hold, which the type records. -/

namespace JsonQuery

namespace Binary64

/-- The distance between neighbouring magnitudes around `units`: one unit up to
53 binary digits, and twice as much with each further digit. -/
def spacing (units : Nat) : Nat := Nat.pow 2 (units.log2 - 52)

/-- The power of two that no finite magnitude reaches, in units. -/
def topPower : Nat := 2098

/-- The least magnitude beyond every finite one, in units. -/
def limit : Nat := Nat.pow 2 topPower

theorem limit_pos : 0 < limit := by
  unfold limit
  generalize topPower = power
  exact Nat.two_pow_pos power

/-- A magnitude that has at most 53 significant binary digits and is not too large. -/
def Representable (units : Nat) : Prop :=
  units < limit ∧ units % spacing units = 0

instance (units : Nat) : Decidable (Representable units) := by
  unfold Representable; infer_instance

/-- A finite double. Zero has two signs. -/
structure Finite where
  negative : Bool
  units : Nat
  representable : Representable units
deriving DecidableEq

/-- The value in units of `2^-1074`; both zeros have rank zero. -/
def Finite.rank (value : Finite) : Int :=
  if value.negative then -(value.units : Int) else value.units

def Finite.zero (negative : Bool) : Finite :=
  ⟨negative, 0, limit_pos, Nat.zero_mod _⟩

end Binary64

inductive Binary64 where
  | nan
  | infinite (negative : Bool)
  | finite (value : Binary64.Finite)

namespace Binary64

/-- The place of a number in the numeric order; a value that is not a number has none. -/
def rank? : Binary64 → Option Int
  | nan => none
  | infinite true => some (-(limit : Int))
  | infinite false => some limit
  | finite value => some value.rank

/-- Numeric comparison, undefined as soon as one side is not a number. -/
def compare? (left right : Binary64) : Option Ordering := do
  return compare (← left.rank?) (← right.rank?)

/-- Numeric equality: the two zeros are equal, and what is not a number equals nothing. -/
def same (left right : Binary64) : Bool := left.compare? right == some .eq

instance : BEq Binary64 where
  beq := same

def isFinite : Binary64 → Bool
  | finite _ => true
  | _ => false

end Binary64

end JsonQuery
