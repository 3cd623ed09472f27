import JsonQuery.Proofs.Query.Brackets
import JsonQuery.Proofs.Text.Split
import JsonQuery.Proofs.Text.Trim

/-! The text of a slice reads back as the slice. -/

namespace JsonQuery

namespace Decimal

theorem isDigit_of_mem_toDigits {number : Nat} {char : Char}
    (member : char ∈ Nat.toDigits 10 number) : char.isDigit = true :=
  Nat.isDigit_of_mem_toDigits (by decide) (by decide) member

theorem digit_or_minus_of_mem_integerText {value : Int} {char : Char}
    (member : char ∈ integerText value) : char.isDigit = true ∨ char = '-' := by
  unfold integerText at member
  split at member
  · rcases List.mem_cons.mp member with rfl | digit
    · exact .inr rfl
    · exact .inl (isDigit_of_mem_toDigits digit)
  · exact .inl (isDigit_of_mem_toDigits member)

end Decimal

namespace Slice

theorem digit_or_minus_of_mem_boundText {bound : Option Int64} {char : Char}
    (member : char ∈ boundText bound) : char.isDigit = true ∨ char = '-' := by
  cases bound with
  | none => cases member
  | some value => exact Decimal.digit_or_minus_of_mem_integerText member

private theorem not_gap_of_digit_or_minus {char : Char}
    (plain : char.isDigit = true ∨ char = '-') : Text.isGap char = false := by
  rcases plain with digit | rfl
  · unfold Text.isGap
    rw [decide_eq_false_iff_not]
    rintro (rfl | rfl | rfl | rfl) <;> cases digit
  · rfl

theorem ofIntClamp_toInt (value : Int64) : Int64.ofIntClamp value.toInt = value := by
  rw [Int64.ofIntClamp, dif_pos value.minValue_le_toInt, dif_pos value.toInt_le]
  exact Int64.ofIntLE_toInt value

/-- The number that digits stand for behind a minus sign or without one. -/
def signedNumber (negative : Bool) (digits : List Char) : Int :=
  if negative then -Nat.ofDigitChars 10 digits 0 else Nat.ofDigitChars 10 digits 0

/-- A bound as it may be written: a minus sign or none, and then digits, between gaps. -/
structure BoundText (negative : Bool) (digits text : List Char) : Prop where
  isDigit : ∀ char ∈ digits, char.isDigit = true
  between : ∃ left right, (∀ char ∈ left ++ right, char ∈ [' ', '\t', '\r', '\n']) ∧
    text = left ++ ((if negative then '-' :: digits else digits) ++ right)

theorem isGap_iff {char : Char} : Text.isGap char = true ↔ char ∈ [' ', '\t', '\r', '\n'] := by
  simp only [Text.isGap, decide_eq_true_eq, List.mem_cons, List.not_mem_nil, or_false]
  tauto

/-- What is read of a bound: nothing without digits, and else the nearest bound in range. -/
theorem readBound?_of_boundText {negative : Bool} {digits text : List Char}
    (written : BoundText negative digits text) :
    readBound? text = some (if digits = [] then none
      else some (Int64.ofIntClamp (signedNumber negative digits))) := by
  obtain ⟨isDigit, left, right, gaps, rfl⟩ := written
  obtain ⟨leftGaps, rightGaps⟩ := List.forall_mem_append.mp gaps
  have plain : ∀ char ∈ if negative then '-' :: digits else digits, Text.isGap char = false := by
    intro char member
    apply not_gap_of_digit_or_minus
    cases negative with
    | true => exact (List.mem_cons.mp member).elim .inr fun digit => .inl (isDigit char digit)
    | false => exact .inl (isDigit char member)
  have all : digits.all Char.isDigit = true := List.all_eq_true.mpr isDigit
  unfold readBound?
  rw [Text.trimBy_append (fun char member => isGap_iff.mpr (leftGaps char member))
    (fun char member => isGap_iff.mpr (rightGaps char member)) (.of_forall plain)]
  cases negative with
  | true => simp [all, signedNumber]
  | false =>
    cases digits with
    | nil => rfl
    | cons first rest =>
      have unsigned : first ≠ '-' := by
        rintro rfl
        cases isDigit '-' List.mem_cons_self
      simp [unsigned, all, signedNumber]

theorem readBound?_boundText (bound : Option Int64) : readBound? (boundText bound) = some bound := by
  cases bound with
  | none => rfl
  | some value =>
    have written : BoundText (value.toInt < 0) (Nat.toDigits 10 value.toInt.natAbs)
        (boundText (some value)) := by
      refine ⟨fun char member => Decimal.isDigit_of_mem_toDigits member, [], [],
        List.forall_mem_nil _, ?_⟩
      simp [boundText, Decimal.integerText]
    have number : signedNumber (value.toInt < 0) (Nat.toDigits 10 value.toInt.natAbs) =
        value.toInt := by
      simp only [signedNumber, decide_eq_true_eq, Nat.ofDigitChars_ten_toDigits]
      split <;> omega
    rw [readBound?_of_boundText written, if_neg Nat.toDigits_ne_nil, number, ofIntClamp_toInt]

private theorem no_colon (bound : Option Int64) : ¬ [':'] <:+: boundText bound := by
  intro inside
  have member := inside.subset (List.mem_singleton.mpr rfl)
  rcases digit_or_minus_of_mem_boundText member with digit | minus
  · cases digit
  · cases minus

theorem read?_written (slice : Slice) : read? slice.written = some slice := by
  obtain ⟨start, stop, step⟩ := slice
  have fresh : ':' ∉ ([] : List Char) := List.not_mem_nil
  unfold read? written
  cases step with
  | none =>
    have parts := Text.split_append fresh (no_colon start) (boundText stop)
    rw [Text.split_of_not_infix (no_colon stop), List.nil_append] at parts
    simp only [if_true, List.append_nil]
    rw [parts]
    simp only [readBound?_boundText]
    rfl
  | some value =>
    have rear := Text.split_append fresh (no_colon stop) (boundText (some value))
    rw [Text.split_of_not_infix (no_colon (some value)), List.nil_append] at rear
    have parts := Text.split_append fresh (no_colon start)
      (boundText stop ++ ':' :: boundText (some value))
    rw [rear, List.nil_append] at parts
    simp only [reduceCtorEq, if_false, List.append_assoc, List.cons_append]
    rw [parts]
    simp only [readBound?_boundText]
    rfl

theorem not_isBracket_of_mem_written {slice : Slice} {char : Char}
    (member : char ∈ slice.written) : Text.isBracket char = false := by
  have ofBound {bound : Option Int64} (inside : char ∈ boundText bound) :
      Text.isBracket char = false := by
    rcases digit_or_minus_of_mem_boundText inside with digit | rfl
    · exact Text.isBracket_of_test digit rfl rfl
    · rfl
  unfold written at member
  split at member <;>
    simp only [List.mem_append, List.mem_cons, List.not_mem_nil, or_false] at member
  · rcases member with start | rfl | stop
    · exact ofBound start
    · rfl
    · exact ofBound stop
  · rcases member with (start | rfl | stop) | rfl | step
    · exact ofBound start
    · rfl
    · exact ofBound stop
    · rfl
    · exact ofBound step

theorem balanced_written (slice : Slice) : Text.Balanced slice.written :=
  .of_plain fun _ member => not_isBracket_of_mem_written member

end Slice

theorem Token.ofBracket_written (value : Slice) : ofBracket value.written = .slice value := by
  unfold ofBracket
  rw [Slice.read?_written]

end JsonQuery
