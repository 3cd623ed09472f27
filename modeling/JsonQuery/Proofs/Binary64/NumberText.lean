import JsonQuery.Proofs.Binary64.PlainText

/-! The characters of numbers: letters, digits, signs and points, both in what is written of
a finite double and in whatever reads as one. -/

namespace JsonQuery

namespace Text

/-- A letter, a digit, a sign or a point. -/
def isNumeral (char : Char) : Bool :=
  char.isAlphanum || char = '-' || char = '+' || char = '.'

theorem isNumeral_of_isDigit {char : Char} (digit : char.isDigit = true) :
    isNumeral char = true := by
  simp [isNumeral, Char.isAlphanum, digit]

theorem isNumeral_of_isAlpha {char : Char} (letter : char.isAlpha = true) :
    isNumeral char = true := by
  simp [isNumeral, Char.isAlphanum, letter]

end Text

namespace Decimal

private theorem isAlpha_of_toLower {char : Char} (lower : char.toLower = 'e') :
    char.isAlpha = true := by
  by_cases upper : char.isUpper = true
  · exact Bool.or_eq_true_iff.mpr (.inl upper)
  · unfold Char.toLower at lower
    rw [dif_neg] at lower
    · rw [lower]
      rfl
    · intro capital
      exact upper (decide_eq_true capital)

theorem isNumeral_of_splitSign {text : List Char} {char : Char} (member : char ∈ text)
    (rest : ∀ char ∈ (splitSign text).2, Text.isNumeral char = true) :
    Text.isNumeral char = true := by
  unfold splitSign at rest
  split at rest
  · rcases List.mem_cons.mp member with rfl | later
    · rfl
    · exact rest char later
  · rcases List.mem_cons.mp member with rfl | later
    · rfl
    · exact rest char later
  · exact rest char member

theorem isNumeral_of_readExponent? {text : List Char} {exponent : Int}
    (read : readExponent? text = some exponent) : ∀ char ∈ text, Text.isNumeral char = true := by
  cases text with
  | nil => exact List.forall_mem_nil _
  | cons letter rest =>
    unfold readExponent? at read
    dsimp only at read
    split at read
    · rename_i valid
      obtain ⟨lower, _, digits⟩ := valid
      refine List.forall_mem_cons.mpr ⟨Text.isNumeral_of_isAlpha (isAlpha_of_toLower lower), ?_⟩
      intro char member
      refine isNumeral_of_splitSign member fun char digit => ?_
      exact Text.isNumeral_of_isDigit (List.all_eq_true.mp digits char digit)
    · cases read

/-- The fraction and what is behind it hold every character but the point. -/
theorem splitFraction_spec (text : List Char) :
    (∀ char ∈ (splitFraction text).1, char.isDigit = true) ∧
      ∀ char ∈ text, char = '.' ∨ char ∈ (splitFraction text).1 ∨ char ∈ (splitFraction text).2 := by
  unfold splitFraction
  split
  · rename_i rest
    rw [List.span_eq_takeWhile_dropWhile]
    refine ⟨fun char digit => List.mem_takeWhile_imp digit, ?_⟩
    refine List.forall_mem_cons.mpr ⟨.inl rfl, fun char member => .inr ?_⟩
    rw [← List.mem_append, List.takeWhile_append_dropWhile]
    exact member
  · exact ⟨List.forall_mem_nil _, fun char member => .inr (.inr member)⟩

theorem isNumeral_of_read? {text : List Char} {decimal : Decimal}
    (found : read? text = some decimal) : ∀ char ∈ text, Text.isNumeral char = true := by
  obtain ⟨fractionDigits, afterFraction⟩ := splitFraction_spec (text.dropWhile Char.isDigit)
  unfold read? at found
  rw [List.span_eq_takeWhile_dropWhile] at found
  dsimp only at found
  split at found
  · cases found
  · obtain ⟨exponent, read, _⟩ := Option.bind_eq_some_iff.mp found
    have whole : text.takeWhile Char.isDigit ++ text.dropWhile Char.isDigit = text :=
      List.takeWhile_append_dropWhile
    rw [← whole]
    refine List.forall_mem_append.mpr ⟨?_, ?_⟩
    · intro char member
      exact Text.isNumeral_of_isDigit (List.mem_takeWhile_imp member)
    · intro char member
      rcases afterFraction char member with rfl | digit | later
      · rfl
      · exact Text.isNumeral_of_isDigit (fractionDigits char digit)
      · exact isNumeral_of_readExponent? read char later

end Decimal

namespace Binary64

theorem Finite.isNumeral_of_mem_plainText {value : Finite} {char : Char}
    (member : char ∈ value.plainText) : Text.isNumeral char = true := by
  have digits := value.magnitude.positional_digits.1
  rw [value.plainText_eq, List.mem_append, List.mem_append] at member
  rcases member with sign | whole | fraction
  · unfold signText at sign
    split at sign
    · obtain rfl := List.mem_singleton.mp sign
      rfl
    · cases sign
  · exact Text.isNumeral_of_isDigit (digits char (List.mem_append_left _ whole))
  · unfold Decimal.fractionText at fraction
    split at fraction
    · cases fraction
    · rcases List.mem_cons.mp fraction with rfl | digit
      · rfl
      · exact Text.isNumeral_of_isDigit (digits char (List.mem_append_right _ digit))

theorem readName?_ne_finite (negative : Bool) (text : List Char) (value : Finite) :
    readName? negative text ≠ some (finite value) := by
  unfold readName?
  dsimp only
  split
  · intro same
    cases same
  · split <;> intro same <;> cases same

theorem isNumeral_of_read? {text : List Char} {value : Finite}
    (found : read? text = some (finite value)) : ∀ char ∈ text, Text.isNumeral char = true := by
  intro char member
  refine Decimal.isNumeral_of_splitSign member ?_
  unfold read? at found
  dsimp only at found
  cases named : readName? (Decimal.splitSign text).1 (Decimal.splitSign text).2 with
  | some other =>
    rw [named] at found
    obtain rfl := Option.some.inj found
    exact absurd named (readName?_ne_finite _ _ _)
  | none =>
    rw [named] at found
    obtain ⟨decimal, read, _⟩ := Option.map_eq_some_iff.mp found
    exact Decimal.isNumeral_of_read? read

end Binary64

end JsonQuery
