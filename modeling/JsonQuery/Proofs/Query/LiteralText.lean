import JsonQuery.Query.Literal
import JsonQuery.Proofs.Binary64.NumberText
import JsonQuery.Proofs.Text.Trim

/-! The text of a literal reads back as the literal. A text reads as a string or is made of
the characters of numbers and words alone, and so is what is written of it. -/

namespace JsonQuery

theorem Text.isBlank_of_isNumeral {char : Char} (numeral : isNumeral char = true) :
    isBlank char = false := by
  have visible : 0x21 ≤ char.toNat ∧ char.toNat ≤ 0x7E := by
    simp only [isNumeral, Char.isAlphanum, Bool.or_eq_true, decide_eq_true_eq] at numeral
    rcases numeral with (((letter | digit) | rfl) | rfl) | rfl
    · rcases Bool.or_eq_true_iff.mp letter with upper | lower
      · have bounds : 65 ≤ char.toNat ∧ char.toNat ≤ 90 := of_decide_eq_true upper
        omega
      · obtain ⟨least, greatest⟩ := Bool.and_eq_true_iff.mp lower
        have low : 97 ≤ char.toNat := of_decide_eq_true least
        have high : char.toNat ≤ 122 := of_decide_eq_true greatest
        omega
    · have bounds : 48 ≤ char.toNat ∧ char.toNat ≤ 57 := Char.isDigit_iff_toNat.mp digit
      omega
    all_goals decide
  unfold isBlank blankRanges Ranges.contains
  simp only [List.any_cons, List.any_nil, Bool.or_false, Bool.or_eq_false_iff,
    Bool.and_eq_false_iff, decide_eq_false_iff_not]
  omega

namespace Literal

/-- Every literal is finite but a number that is not. -/
def isFinite : Literal → Bool
  | number value => value.isFinite
  | _ => true

def isString : Literal → Bool
  | string _ => true
  | _ => false

private theorem readNumber?_of_head {text : List Char} {first : Char}
    (head : text.head? = some first) (signed : first = '-' ∨ first.isDigit = true) :
    readNumber? text = (Binary64.read? text).filter Binary64.isFinite := by
  unfold readNumber?
  rw [head, if_pos]
  simpa using signed

private theorem readNumber?_quoted (quote : Char) (plain : quote ≠ '-') (digit : quote.isDigit = false)
    (rest : List Char) : readNumber? (quote :: rest) = none := by
  unfold readNumber?
  simp [plain, digit]

theorem read_quoted (text : List Char) :
    read ('\x22' :: (text ++ ['\x22'])) = string (String.ofList text) := by
  have bare : unquote? '\x22' ('\x22' :: (text ++ ['\x22'])) = some text := by
    simp [unquote?]
  have noNumber : readNumber? ('\x22' :: (text ++ ['\x22'])) = none :=
    readNumber?_quoted '\x22' (by decide) rfl _
  unfold read
  simp [bare, noNumber]

/-- The text of a literal reads back, unless it is a number that is not finite. -/
theorem read_written_of_isFinite {literal : Literal} (finite : literal.isFinite = true) :
    read literal.written = literal := by
  cases literal with
  | undefined | null => rfl
  | bool value => cases value <;> rfl
  | string text =>
    rw [written, read_quoted, String.ofList_toList]
  | number value =>
    cases value with
    | nan | infinite => cases finite
    | finite value =>
      obtain ⟨first, rest, shape, signed⟩ := value.exists_plainText_cons
      have text : (number (.finite value)).written = value.plainText := String.toList_ofList
      have numbered : readNumber? value.plainText = some (.finite value) := by
        rw [shape, readNumber?_of_head rfl signed, ← shape, Binary64.read?_plainText]
        rfl
      have noWord (letter : Char) (letters : List Char) (plain : letter ≠ '-')
          (noDigit : letter.isDigit = false) : value.plainText ≠ letter :: letters := by
        rw [shape]
        rintro ⟨rfl, _⟩
        rcases signed with minus | digit
        · exact plain minus
        · rw [noDigit] at digit
          cases digit
      rw [text, read, if_neg (noWord _ _ (by decide) rfl), if_neg (noWord _ _ (by decide) rfl),
        if_neg (noWord _ _ (by decide) rfl), if_neg (noWord _ _ (by decide) rfl), numbered]

theorem exists_finite_of_readNumber? {text : List Char} {value : Binary64}
    (found : readNumber? text = some value) :
    ∃ finite, value = .finite finite ∧ Binary64.read? text = some (.finite finite) := by
  unfold readNumber? at found
  split at found
  · obtain ⟨read, passes⟩ := Option.filter_eq_some_iff.mp found
    cases value with
    | nan | infinite => cases passes
    | finite value => exact ⟨value, rfl, read⟩
  · cases found

/-- Where a text is no word and no number, it is a string between quotes or as it is. -/
theorem exists_string_of_unquote (text : List Char) :
    ∃ inner, ((unquote? '\x22' text).orElse fun _ => unquote? '\x27' text).getD text = inner ∧
      (text = inner ∨ ∃ quote, (quote = '\x22' ∨ quote = '\x27') ∧
        text = quote :: (inner ++ [quote])) := by
  have ofQuote {quote : Char} {inner : List Char} (found : unquote? quote text = some inner) :
      text = quote :: (inner ++ [quote]) := by
    cases text with
    | nil => cases found
    | cons first rest =>
      rw [unquote?] at found
      by_cases quoted : first = quote ∧ rest.getLast? = some quote
      · rw [if_pos quoted] at found
        obtain ⟨rfl, last⟩ := quoted
        obtain ⟨front, rfl⟩ := List.getLast?_eq_some_iff.mp last
        obtain rfl := Option.some.inj found
        rw [List.dropLast_concat]
      · rw [if_neg quoted] at found
        cases found
  cases double : unquote? '\x22' text with
  | some inner => exact ⟨inner, rfl, .inr ⟨'\x22', .inl rfl, ofQuote double⟩⟩
  | none =>
    cases single : unquote? '\x27' text with
    | some inner => exact ⟨inner, rfl, .inr ⟨'\x27', .inr rfl, ofQuote single⟩⟩
    | none => exact ⟨text, rfl, .inl rfl⟩

/-- A text reads as a word or number of numerals alone, or else as a string with or without
the quotes around it. -/
theorem read_cases (text : List Char) :
    (read text).isFinite = true ∧ (read text).isString = false ∧
        (∀ char ∈ text, Text.isNumeral char = true) ∨
      ∃ inner, read text = string (String.ofList inner) ∧
        (text = inner ∨ ∃ quote, (quote = '\x22' ∨ quote = '\x27') ∧
          text = quote :: (inner ++ [quote])) := by
  unfold read
  split
  · rename_i word
    exact .inl ⟨rfl, rfl, word ▸ List.all_eq_true.mp rfl⟩
  · split
    · rename_i word
      exact .inl ⟨rfl, rfl, word ▸ List.all_eq_true.mp rfl⟩
    · split
      · rename_i word
        exact .inl ⟨rfl, rfl, word ▸ List.all_eq_true.mp rfl⟩
      · split
        · rename_i word
          exact .inl ⟨rfl, rfl, word ▸ List.all_eq_true.mp rfl⟩
        · split
          · rename_i value found
            obtain ⟨finite, rfl, number⟩ := exists_finite_of_readNumber? found
            exact .inl ⟨rfl, rfl, Binary64.isNumeral_of_read? number⟩
          · obtain ⟨inner, bare, shape⟩ := exists_string_of_unquote text
            exact .inr ⟨inner, congrArg (string ∘ String.ofList) bare, shape⟩

theorem isFinite_read (text : List Char) : (read text).isFinite = true := by
  rcases read_cases text with ⟨finite, _⟩ | ⟨inner, reads, _⟩
  · exact finite
  · rw [reads]
    rfl

theorem read_written_read (text : List Char) : read (read text).written = read text :=
  read_written_of_isFinite (isFinite_read text)

theorem isNumeral_of_mem_written {literal : Literal} (finite : literal.isFinite = true)
    (plain : literal.isString = false) : ∀ char ∈ literal.written, Text.isNumeral char = true := by
  cases literal with
  | string text => cases plain
  | undefined | null => exact List.all_eq_true.mp rfl
  | bool value => cases value <;> exact List.all_eq_true.mp rfl
  | number value =>
    cases value with
    | nan | infinite => cases finite
    | finite value =>
      have text : (number (.finite value)).written = value.plainText := String.toList_ofList
      rw [text]
      intro _ member
      exact Binary64.Finite.isNumeral_of_mem_plainText member

theorem cleanEnds_written_read (text : List Char) :
    Text.CleanEnds Text.isBlank (read text).written := by
  rcases read_cases text with ⟨finite, plain, _⟩ | ⟨inner, reads, _⟩
  · exact .of_forall fun char member =>
      Text.isBlank_of_isNumeral (isNumeral_of_mem_written finite plain char member)
  · have quote : Text.isBlank '\x22' = false := by decide
    rw [reads, written]
    refine ⟨fun char first => ?_, fun char last => ?_⟩
    · obtain rfl := Option.some.inj first
      exact quote
    · rw [← List.cons_append, List.getLast?_concat] at last
      obtain rfl := Option.some.inj last
      exact quote

theorem written_ne_nil {literal : Literal} (finite : literal.isFinite = true) :
    literal.written ≠ [] := by
  cases literal with
  | undefined | null => decide
  | bool value => cases value <;> decide
  | string text => exact List.cons_ne_nil _ _
  | number value =>
    cases value with
    | nan | infinite => cases finite
    | finite value =>
      obtain ⟨first, rest, shape, _⟩ := value.exists_plainText_cons
      have text : (number (.finite value)).written = value.plainText := String.toList_ofList
      rw [text, shape]
      exact List.cons_ne_nil _ _

end Literal

end JsonQuery
