import JsonQuery.Binary64.Text
import JsonQuery.Proofs.Binary64.Ratio
import JsonQuery.Proofs.Text.Trim
import Mathlib.Data.List.TakeDrop
import Mathlib.Data.List.TakeWhile

/-! The plain text of a finite double is made of digits around at most one point, behind a
sign or none, and reads back as the same double. -/

namespace JsonQuery

namespace Decimal

theorem isDigit_of_mem_digits {decimal : Decimal} {char : Char} (member : char ∈ decimal.digits) :
    char.isDigit = true :=
  Nat.isDigit_of_mem_toDigits (by decide) (by decide) member

private theorem isDigit_of_mem_replicate {count : Nat} {char : Char}
    (member : char ∈ List.replicate count '0') : char.isDigit = true := by
  rw [List.eq_of_mem_replicate member]
  rfl

theorem positional_digits (decimal : Decimal) :
    (∀ char ∈ decimal.positional.1 ++ decimal.positional.2, char.isDigit = true) ∧
      decimal.positional.1 ≠ [] := by
  have some : decimal.digits ≠ [] := Nat.toDigits_ne_nil
  unfold positional
  split
  · refine ⟨?_, by simp [some]⟩
    intro char member
    simp only [List.append_nil, List.mem_append] at member
    rcases member with digit | zero
    · exact isDigit_of_mem_digits digit
    · exact isDigit_of_mem_replicate zero
  · dsimp only
    split
    · rename_i fewer
      rw [List.splitAt_eq]
      constructor
      · intro char member
        rw [List.take_append_drop] at member
        exact isDigit_of_mem_digits member
      · intro empty
        have length := congrArg List.length empty
        rw [List.length_take, List.length_nil] at length
        omega
    · refine ⟨?_, List.cons_ne_nil _ _⟩
      intro char member
      simp only [List.singleton_append, List.mem_cons, List.mem_append] at member
      rcases member with rfl | zero | digit
      · rfl
      · exact isDigit_of_mem_replicate zero
      · exact isDigit_of_mem_digits digit

/-- The digits of the positional notation, with as many places as are behind the point. -/
def written (decimal : Decimal) : Decimal :=
  ⟨Nat.ofDigitChars 10 (decimal.positional.1 ++ decimal.positional.2) 0,
    -decimal.positional.2.length⟩

end Decimal

namespace Binary64

theorem ofDecimal_written (negative : Bool) (decimal : Decimal) :
    ofDecimal negative decimal.written = ofDecimal negative decimal := by
  obtain ⟨coefficient, exponent⟩ := decimal
  have value : Nat.ofDigitChars 10 (Decimal.digits ⟨coefficient, exponent⟩) 0 = coefficient :=
    Nat.ofDigitChars_ten_toDigits
  unfold Decimal.written Decimal.positional
  dsimp only
  split
  · rename_i whole
    have shift := ofDecimal_shift negative coefficient exponent.toNat 0
    rw [Int.zero_add, Int.toNat_of_nonneg whole, Nat.mul_comm] at shift
    rw [List.append_nil, Nat.ofDigitChars_append, Nat.ofDigitChars_replicate_zero, value]
    exact shift
  · rename_i fraction
    split
    · rename_i fewer
      rw [List.splitAt_eq, List.take_append_drop, value, List.length_drop]
      have places : -(((Decimal.digits ⟨coefficient, exponent⟩).length -
          ((Decimal.digits ⟨coefficient, exponent⟩).length - (-exponent).toNat) : Nat) : Int) =
          exponent := by
        omega
      rw [places]
    · have zero : Nat.ofDigitChars 10 ['0'] 0 = 0 := rfl
      have places : -((List.replicate ((-exponent).toNat -
          (Decimal.digits ⟨coefficient, exponent⟩).length) '0' ++
          Decimal.digits ⟨coefficient, exponent⟩).length : Int) = exponent := by
        rw [List.length_append, List.length_replicate]
        omega
      rw [Nat.ofDigitChars_append, Nat.ofDigitChars_append, zero, Nat.ofDigitChars_replicate_zero,
        Nat.mul_zero, value, places]

end Binary64

namespace Decimal

/-- The point and the digits behind it, if there are any. -/
def fractionText (fraction : List Char) : List Char :=
  if fraction = [] then [] else '.' :: fraction

private theorem span_digits {digits rest : List Char}
    (inside : ∀ char ∈ digits, char.isDigit = true)
    (ends : ∀ char ∈ rest.head?, char.isDigit = false) :
    (digits ++ rest).span Char.isDigit = (digits, rest) := by
  obtain ⟨taken, left⟩ := Text.takeWhile_append inside ends
  rw [List.span_eq_takeWhile_dropWhile, taken, left]

private theorem span_all {digits : List Char} (inside : ∀ char ∈ digits, char.isDigit = true) :
    digits.span Char.isDigit = (digits, []) := by
  have whole := @span_digits digits [] inside fun _ first => by cases first
  rw [List.append_nil] at whole
  exact whole

theorem splitSign_of_digit {first : Char} (digit : first.isDigit = true) (rest : List Char) :
    splitSign (first :: rest) = (false, first :: rest) := by
  unfold splitSign
  split
  · rename_i minus
    obtain ⟨rfl, _⟩ := List.cons.inj minus
    cases digit
  · rename_i plus
    obtain ⟨rfl, _⟩ := List.cons.inj plus
    cases digit
  · rfl

/-- Digits around a point are read with as many places as are behind it. -/
theorem read?_digits {whole fraction : List Char} (some : whole ≠ [])
    (digits : ∀ char ∈ whole ++ fraction, char.isDigit = true) :
    read? (whole ++ fractionText fraction) =
      .some ⟨Nat.ofDigitChars 10 (whole ++ fraction) 0, -fraction.length⟩ := by
  obtain ⟨wholeDigits, fractionDigits⟩ := List.forall_mem_append.mp digits
  have clamped : clampExponent (whole ++ fraction).length (0 - fraction.length) =
      -fraction.length := by
    unfold clampExponent
    rw [List.length_append]
    omega
  have split : splitFraction (fractionText fraction) = (fraction, []) := by
    unfold fractionText
    by_cases none : fraction = []
    · rw [none]
      rfl
    · rw [if_neg none]
      exact span_all fractionDigits
  have ends : ∀ char ∈ (fractionText fraction).head?, char.isDigit = false := by
    unfold fractionText
    intro char first
    split at first
    · cases first
    · obtain rfl := Option.some.inj first
      rfl
  unfold read?
  rw [span_digits wholeDigits ends]
  simp only [split, some, readExponent?, false_and, if_false]
  change Option.some (Decimal.mk _ (clampExponent _ (0 - _))) = _
  rw [clamped]

end Decimal

namespace Binary64

theorem toLower_of_isDigit {char : Char} (digit : char.isDigit = true) : char.toLower = char := by
  simp only [Char.isDigit, Bool.and_eq_true, decide_eq_true_eq] at digit
  unfold Char.toLower
  rw [dif_neg]
  rintro ⟨low, _⟩
  exact absurd (UInt32.le_trans low digit.2) (by decide)

theorem readName?_of_digit (negative : Bool) {first : Char} (digit : first.isDigit = true)
    (rest : List Char) : readName? negative (first :: rest) = none := by
  have other {name : String} {char : Char} {others : List Char}
      (letters : name.toList = char :: others) (letter : char.isDigit = false) :
      String.ofList ((first :: rest).map Char.toLower) ≠ name := by
    intro same
    have texts := congrArg String.toList same
    rw [String.toList_ofList, letters, List.map_cons, toLower_of_isDigit digit] at texts
    rw [(List.cons.inj texts).1, letter] at digit
    cases digit
  unfold readName?
  dsimp only
  rw [if_neg (other (by rfl) rfl), if_neg]
  rintro (inf | infinity)
  · exact other (by rfl) rfl inf
  · exact other (by rfl) rfl infinity

/-- The digits of the magnitude of a finite double. -/
def Finite.magnitude (value : Finite) : Decimal :=
  if value.units = 0 then ⟨0, 0⟩ else shortest .up value.units

theorem Finite.plainText_eq (value : Finite) :
    value.plainText = signText value.negative ++
      (value.magnitude.positional.1 ++ Decimal.fractionText value.magnitude.positional.2) :=
  List.append_assoc _ _ _

theorem Finite.exists_plainText_cons (value : Finite) :
    ∃ first rest, value.plainText = first :: rest ∧ (first = '-' ∨ first.isDigit = true) := by
  obtain ⟨digits, nonempty⟩ := value.magnitude.positional_digits
  rw [value.plainText_eq]
  cases value.negative with
  | true => exact ⟨'-', _, rfl, .inl rfl⟩
  | false =>
    obtain ⟨first, rest, shape⟩ := List.exists_cons_of_ne_nil nonempty
    rw [shape] at digits ⊢
    exact ⟨first, _, rfl, .inr (digits first List.mem_cons_self)⟩

theorem ofDecimal_magnitude (value : Finite) :
    ofDecimal value.negative value.magnitude = finite value := by
  unfold Finite.magnitude
  split
  · rename_i none
    have zero : (⟨0, 0⟩ : Decimal) = ⟨0, -(0 : Nat)⟩ := rfl
    rw [← nearest_units, none, zero, ofDecimal_places]
    have same (one : Nat) : 0 * one = 0 * Nat.pow 10 0 := by
      rw [Nat.zero_mul, Nat.zero_mul]
    exact nearest_congr value.negative Nat.one_pos unitsInOne_pos
      (same (Nat.pow 2 1074))
  · exact ofDecimal_shortest .up value

/-- The plain text of a finite double reads back. -/
theorem read?_plainText (value : Finite) : read? value.plainText = some (finite value) := by
  obtain ⟨digits, nonempty⟩ := value.magnitude.positional_digits
  have read := Decimal.read?_digits nonempty digits
  obtain ⟨first, rest, shape⟩ := List.exists_cons_of_ne_nil nonempty
  have digit : first.isDigit = true :=
    digits first (List.mem_append_left _ (shape ▸ List.mem_cons_self))
  have unsigned : Decimal.splitSign value.plainText = (value.negative,
      value.magnitude.positional.1 ++ Decimal.fractionText value.magnitude.positional.2) := by
    rw [value.plainText_eq]
    cases value.negative with
    | true => rfl
    | false =>
      rw [shape]
      exact Decimal.splitSign_of_digit digit _
  unfold read?
  rw [unsigned]
  dsimp only
  rw [read, shape, List.cons_append, readName?_of_digit value.negative digit]
  simp only [Option.orElse, Option.map_some]
  rw [← shape]
  have whole := ofDecimal_written value.negative value.magnitude
  rw [ofDecimal_magnitude] at whole
  exact congrArg some whole

end Binary64

end JsonQuery
