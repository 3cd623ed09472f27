import JsonQuery.Binary64.Basic

/-! Rounding a quotient of whole numbers to the nearest double, a half going to
the neighbour whose last binary digit is even. -/

namespace JsonQuery.Binary64

/-- The quotient rounded to the nearest whole number, a half going to the even one. -/
def roundQuotient (numerator denominator : Nat) : Nat :=
  let floor := numerator / denominator
  let twice := 2 * (numerator % denominator)
  if twice < denominator then floor
  else if denominator < twice then floor + 1
  else if floor % 2 = 0 then floor else floor + 1

/-- The distance between the doubles around a quotient, in units. -/
def grid (numerator denominator : Nat) : Nat :=
  spacing (numerator * Nat.pow 2 1074 / denominator)

/-- The magnitude nearest to a quotient, in units, before any overflow. -/
def roundUnits (numerator denominator : Nat) : Nat :=
  roundQuotient (numerator * Nat.pow 2 1074) (denominator * grid numerator denominator) *
    grid numerator denominator

theorem roundQuotient_le (numerator denominator : Nat) :
    roundQuotient numerator denominator ≤ numerator / denominator + 1 := by
  unfold roundQuotient
  grind

private theorem floor_lt (scaled denominator : Nat) :
    scaled / (denominator * spacing (scaled / denominator)) < Nat.pow 2 53 := by
  rw [← Nat.div_div_eq_div_mul]
  generalize scaled / denominator = units
  unfold spacing
  rw [Nat.pow_eq, Nat.pow_eq, Nat.div_lt_iff_lt_mul (Nat.two_pow_pos _), ← Nat.pow_add]
  exact Nat.lt_of_lt_of_le Nat.lt_log2_self
    (Nat.pow_le_pow_right (by decide) (by omega))

private theorem mul_spacing_aligned (count power : Nat) (fits : count ≤ Nat.pow 2 53) :
    count * Nat.pow 2 power % spacing (count * Nat.pow 2 power) = 0 := by
  apply Nat.mod_eq_zero_of_dvd
  unfold spacing
  simp only [Nat.pow_eq] at fits ⊢
  rcases Nat.lt_or_eq_of_le fits with small | full
  · refine Nat.dvd_trans (Nat.pow_dvd_pow 2 ?_) (Nat.dvd_mul_left _ count)
    by_cases none : count * 2 ^ power = 0
    · simp [none]
    · have below : count * 2 ^ power < 2 ^ (53 + power) := by
        rw [Nat.pow_add]
        exact Nat.mul_lt_mul_of_pos_right small (Nat.two_pow_pos _)
      have digits := (Nat.log2_lt none).mpr below
      omega
  · rw [full, ← Nat.pow_add, Nat.log2_two_pow]
    exact Nat.pow_dvd_pow 2 (by omega)

/-- Rounding lands on a multiple of the spacing at the place where it lands. -/
theorem roundUnits_aligned (numerator denominator : Nat) :
    roundUnits numerator denominator % spacing (roundUnits numerator denominator) = 0 := by
  apply mul_spacing_aligned
  have above := roundQuotient_le (numerator * Nat.pow 2 1074)
    (denominator * grid numerator denominator)
  have below := floor_lt (numerator * Nat.pow 2 1074) denominator
  unfold grid at above ⊢
  omega

/-- The double nearest to a signed quotient; a magnitude beyond all finite ones is infinite. -/
def nearest (negative : Bool) (numerator denominator : Nat) : Binary64 :=
  if fits : roundUnits numerator denominator < limit then
    finite ⟨negative, roundUnits numerator denominator, fits,
      roundUnits_aligned numerator denominator⟩
  else infinite negative

def ofInt (value : Int) : Binary64 := nearest (value < 0) value.natAbs 1

end JsonQuery.Binary64
