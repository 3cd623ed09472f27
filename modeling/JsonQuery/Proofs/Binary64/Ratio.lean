import JsonQuery.Binary64.Shortest
import Mathlib.Tactic.Ring

/-! Rounding depends on the value of a quotient and not on how it is written, and leaves a
magnitude that a double can hold as it is. -/

namespace JsonQuery.Binary64

private theorem power_pos {base : Nat} (positive : 0 < base) (power : Nat) :
    0 < Nat.pow base power :=
  Nat.pow_pos positive

theorem unitsInOne_pos : 0 < Nat.pow 2 1074 := by
  generalize 1074 = power
  exact power_pos Nat.two_pos power

theorem roundQuotient_mul {factor : Nat} (positive : 0 < factor) (numerator denominator : Nat) :
    roundQuotient (factor * numerator) (factor * denominator) =
      roundQuotient numerator denominator := by
  have twice : 2 * (factor * numerator % (factor * denominator)) =
      factor * (2 * (numerator % denominator)) := by
    rw [Nat.mul_mod_mul_left]
    ring
  unfold roundQuotient
  simp only [Nat.mul_div_mul_left _ _ positive, twice, Nat.mul_lt_mul_left positive]

theorem grid_mul {factor : Nat} (positive : 0 < factor) (numerator denominator : Nat) :
    grid (factor * numerator) (factor * denominator) = grid numerator denominator := by
  unfold grid
  rw [Nat.mul_assoc, Nat.mul_div_mul_left _ _ positive]

theorem roundUnits_mul {factor : Nat} (positive : 0 < factor) (numerator denominator : Nat) :
    roundUnits (factor * numerator) (factor * denominator) = roundUnits numerator denominator := by
  unfold roundUnits
  rw [grid_mul positive, Nat.mul_assoc, Nat.mul_assoc, roundQuotient_mul positive]

theorem roundUnits_congr {numerator denominator otherNumerator otherDenominator : Nat}
    (positive : 0 < denominator) (otherPositive : 0 < otherDenominator)
    (same : numerator * otherDenominator = otherNumerator * denominator) :
    roundUnits numerator denominator = roundUnits otherNumerator otherDenominator := by
  rw [← roundUnits_mul otherPositive numerator, ← roundUnits_mul positive otherNumerator,
    Nat.mul_comm otherDenominator numerator, same, Nat.mul_comm otherNumerator,
    Nat.mul_comm otherDenominator]

theorem nearest_congr (negative : Bool)
    {numerator denominator otherNumerator otherDenominator : Nat}
    (positive : 0 < denominator) (otherPositive : 0 < otherDenominator)
    (same : numerator * otherDenominator = otherNumerator * denominator) :
    nearest negative numerator denominator = nearest negative otherNumerator otherDenominator := by
  have units := roundUnits_congr positive otherPositive same
  unfold nearest
  simp only [units]

/-- A quotient that a double can hold is not rounded. -/
theorem roundUnits_units {units : Nat} (aligned : units % spacing units = 0) :
    roundUnits units (Nat.pow 2 1074) = units := by
  have positive := unitsInOne_pos
  have exact : roundQuotient units (spacing units) = units / spacing units := by
    unfold roundQuotient
    rw [aligned, if_pos]
    exact power_pos Nat.two_pos _
  unfold roundUnits grid
  generalize Nat.pow 2 1074 = one at positive ⊢
  rw [Nat.mul_div_cancel _ positive, Nat.mul_comm units, roundQuotient_mul positive, exact]
  exact Nat.div_mul_cancel (Nat.dvd_of_mod_eq_zero aligned)

/-- Zeros at the end of a coefficient count like powers of ten. -/
theorem ofDecimal_shift (negative : Bool) (coefficient zeros : Nat) (exponent : Int) :
    ofDecimal negative ⟨coefficient * 10 ^ zeros, exponent⟩ =
      ofDecimal negative ⟨coefficient, exponent + zeros⟩ := by
  have positive := power_pos (Nat.succ_pos 9)
  unfold ofDecimal
  dsimp only
  by_cases whole : 0 ≤ exponent
  · rw [if_pos whole, if_pos (by omega)]
    refine nearest_congr negative Nat.one_pos Nat.one_pos ?_
    have sum : (exponent + zeros).toNat = exponent.toNat + zeros := by omega
    rw [sum, Nat.pow_eq, Nat.pow_eq, Nat.pow_add]
    ring
  · rw [if_neg whole]
    by_cases shifted : 0 ≤ exponent + zeros
    · rw [if_pos shifted]
      refine nearest_congr negative (positive _) Nat.one_pos ?_
      have sum : zeros = (exponent + zeros).toNat + (-exponent).toNat := by omega
      have power : 10 ^ zeros = 10 ^ (exponent + zeros).toNat * 10 ^ (-exponent).toNat := by
        rw [← Nat.pow_add, ← sum]
      rw [power, Nat.pow_eq, Nat.pow_eq]
      ring
    · rw [if_neg shifted]
      refine nearest_congr negative (positive _) (positive _) ?_
      have sum : (-exponent).toNat = zeros + (-(exponent + zeros)).toNat := by omega
      rw [sum, Nat.pow_eq, Nat.pow_eq, Nat.pow_add]
      ring

theorem nearest_of_roundUnits (negative : Bool) {numerator denominator units : Nat}
    (rounded : roundUnits numerator denominator = units) (held : Representable units) :
    nearest negative numerator denominator = finite ⟨negative, units, held⟩ := by
  subst rounded
  unfold nearest
  split
  · rfl
  · rename_i beyond
    exact absurd held.1 beyond

theorem nearest_units (value : Finite) :
    nearest value.negative value.units (Nat.pow 2 1074) = finite value :=
  nearest_of_roundUnits value.negative (roundUnits_units value.representable.2) value.representable

theorem ofDecimal_places (negative : Bool) (coefficient places : Nat) :
    ofDecimal negative ⟨coefficient, -places⟩ =
      nearest negative coefficient (Nat.pow 10 places) := by
  unfold ofDecimal
  dsimp only
  by_cases none : places = 0
  · have zero : (-(0 : Nat) : Int).toNat = 0 := rfl
    have one : Nat.pow 10 0 = 1 := rfl
    rw [none, if_pos (by omega), zero, one, Nat.mul_one]
  · rw [if_neg (by omega), Int.neg_neg, Int.toNat_natCast]

theorem ofDecimal_exactDecimal (value : Finite) :
    ofDecimal value.negative (exactDecimal value.units) = finite value := by
  have positive := unitsInOne_pos
  have whole := nearest_units value
  have places : exactDecimal value.units = ⟨value.units * Nat.pow 5 1074, -(1074 : Nat)⟩ := rfl
  rw [places, ofDecimal_places, ← whole]
  generalize 1074 = power at positive ⊢
  have split : Nat.pow 10 power = Nat.pow 5 power * Nat.pow 2 power := by
    rw [Nat.pow_eq, Nat.pow_eq, Nat.pow_eq, ← Nat.mul_pow]
  rw [split]
  refine nearest_congr value.negative ?_ positive ?_
  · exact Nat.mul_pos (power_pos (Nat.succ_pos 4) power) positive
  · rw [Nat.mul_assoc]

theorem nearest_of_nearest {value read : Finite} {numerator denominator : Nat}
    (rounded : nearest false numerator denominator = finite read)
    (same : read.units = value.units) :
    nearest value.negative numerator denominator = finite value := by
  have units : roundUnits numerator denominator = value.units := by
    unfold nearest at rounded
    split at rounded
    · obtain rfl := Binary64.finite.inj rounded
      exact same
    · cases rounded
  exact nearest_of_roundUnits value.negative units value.representable

theorem ofDecimal_of_readsBack {value : Finite} {decimal : Decimal}
    (reads : readsBack value.units decimal = true) :
    ofDecimal value.negative decimal = finite value := by
  unfold readsBack at reads
  split at reads
  · rename_i read rounded
    have same := beq_iff_eq.mp reads
    unfold ofDecimal at rounded ⊢
    split at rounded
    · rename_i whole
      rw [if_pos whole]
      exact nearest_of_nearest rounded same
    · rename_i fraction
      rw [if_neg fraction]
      exact nearest_of_nearest rounded same
  · cases reads

theorem readsBack_of_onGrid? {tie : Tie} {units : Nat} {exponent : Int} {decimal : Decimal}
    (found : onGrid? tie units exponent = some decimal) : readsBack units decimal = true := by
  unfold onGrid? at found
  dsimp only at found
  split at found
  · rename_i below above
    obtain rfl := Option.some.inj found
    split
    · exact above
    · exact below
  · rename_i below above
    exact Option.some.inj found ▸ below
  · rename_i below above
    exact Option.some.inj found ▸ above
  · cases found

theorem ofDecimal_trimmed (negative : Bool) (coefficient : Nat) (exponent : Int) :
    ofDecimal negative (Decimal.trimmed coefficient exponent) =
      ofDecimal negative ⟨coefficient, exponent⟩ := by
  fun_induction Decimal.trimmed coefficient exponent with
  | case1 coefficient exponent again ih =>
    have shift := ofDecimal_shift negative (coefficient / 10) 1 exponent
    have whole : coefficient / 10 * 10 ^ 1 = coefficient := by
      rw [Nat.pow_one]
      exact Nat.div_mul_cancel (Nat.dvd_of_mod_eq_zero again.2)
    rw [whole] at shift
    rw [ih, shift]
    rfl
  | case2 => rfl

/-- The shortest decimal of a magnitude reads back. -/
theorem ofDecimal_shortest (tie : Tie) (value : Finite) :
    ofDecimal value.negative (shortest tie value.units) = finite value := by
  unfold shortest
  rw [ofDecimal_trimmed]
  cases found : (List.range 17).findSome? fun (extra : Nat) =>
    onGrid? tie value.units (leadingPower value.units - extra) with
  | none => exact ofDecimal_exactDecimal value
  | some decimal =>
    obtain ⟨extra, _, grid⟩ := List.exists_of_findSome?_eq_some found
    exact ofDecimal_of_readsBack (readsBack_of_onGrid? grid)

end JsonQuery.Binary64
