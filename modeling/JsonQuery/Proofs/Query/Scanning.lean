import JsonQuery.Proofs.Query.Brackets
import JsonQuery.Proofs.Text.Trim

/-! What the scanner takes: each kind of token from the front of a text that does not go on
with it. -/

namespace JsonQuery.Token

def isName : List Char → Bool
  | [] => false
  | first :: rest => isNameStart first && rest.all isNamePart

theorem isBracket_of_isNamePart {char : Char} (part : isNamePart char = true) :
    Text.isBracket char = false :=
  Text.isBracket_of_test part rfl rfl

theorem outside_of_isName {name : List Char} (named : isName name = true) :
    ∀ char ∈ name, Text.isBracket char = false := by
  cases name with
  | nil => cases named
  | cons first rest =>
    obtain ⟨starts, parts⟩ := Bool.and_eq_true_iff.mp named
    have start : isNamePart first = true := by rw [isNamePart, starts, Bool.true_or]
    exact List.forall_mem_cons.mpr ⟨isBracket_of_isNamePart start,
      fun char member => isBracket_of_isNamePart (List.all_eq_true.mp parts char member)⟩

theorem isName_append {name more : List Char} (named : isName name = true)
    (parts : ∀ char ∈ more, isNamePart char = true) : isName (name ++ more) = true := by
  cases name with
  | nil => cases named
  | cons first others =>
    rw [isName, Bool.and_eq_true] at named
    rw [List.cons_append, isName, List.all_append, named.1, named.2, List.all_eq_true.mpr parts]
    rfl

/-- A text goes on with neither a name nor a wildcard. -/
def Separates (text : List Char) : Prop :=
  ∀ char ∈ text.head?, isNamePart char = false ∧ char ≠ '*'

theorem scan_of_next {char : Char} {rest after : List Char} {token : Token}
    (taken : next char rest = (some token, after)) :
    scan (char :: rest) = token :: scan after := by
  rw [scan_cons, taken]
  rfl

theorem next_punctuation {char : Char} {token : Token} (sign : punctuation? char = some token)
    (rest : List Char) : next char rest = (some token, rest) := by
  unfold punctuation? at sign
  split at sign <;> first | cases sign; rfl | cases sign

theorem next_wildcard {rest : List Char} (single : '*' ∉ rest.head?) :
    next '*' rest = (some .wildcard, rest) := by
  cases rest with
  | nil => rfl
  | cons char rest =>
    have other : char ≠ '*' := by
      rintro rfl
      exact single rfl
    simp [next, other]

theorem next_bracket {content : List Char} (closed : Text.Balanced content) (rest : List Char) :
    next '[' (content ++ ']' :: rest) = (some (ofBracket content), rest) := by
  unfold next
  rw [if_pos rfl, splitBracket_closed closed]

theorem next_unclosed {content : List Char} {left : Nat}
    (nested : Text.nesting? 0 content = some left) :
    next '[' content = (some (ofBracket content), []) := by
  unfold next
  rw [if_pos rfl, splitBracket_unclosed nested]

theorem scan_punctuation {char : Char} {token : Token} (sign : punctuation? char = some token)
    (rest : List Char) : scan (char :: rest) = token :: scan rest :=
  scan_of_next (next_punctuation sign rest)

theorem scan_deepWildcard (rest : List Char) :
    scan ('*' :: '*' :: rest) = .deepWildcard :: scan rest :=
  scan_of_next rfl

theorem scan_wildcard {rest : List Char} (ends : Separates rest) :
    scan ('*' :: rest) = .wildcard :: scan rest :=
  scan_of_next (next_wildcard fun star => (ends '*' star).2 rfl)

theorem scan_bracket {content : List Char} (closed : Text.Balanced content) (rest : List Char) :
    scan ('[' :: (content ++ ']' :: rest)) = ofBracket content :: scan rest :=
  scan_of_next (next_bracket closed rest)

/-- No character that starts a name starts another token. -/
theorem next_of_isNameStart {char : Char} (starts : isNameStart char = true) (rest : List Char) :
    next char rest = (some (.property (String.ofList (char :: rest.takeWhile isNamePart))),
      rest.dropWhile isNamePart) := by
  have noBracket : char ≠ '[' := by
    rintro rfl
    exact absurd starts (by decide)
  have noStar : char ≠ '*' := by
    rintro rfl
    exact absurd starts (by decide)
  have noSign : punctuation? char = none := by
    unfold punctuation?
    split <;> first | exact absurd starts (by decide) | rfl
  unfold next
  rw [if_neg noBracket, if_neg noStar, noSign]
  simp only [starts, if_true]

theorem next_name {first : Char} {others rest : List Char}
    (named : isName (first :: others) = true)
    (ends : ∀ char ∈ rest.head?, isNamePart char = false) :
    next first (others ++ rest) = (some (.property (String.ofList (first :: others))), rest) := by
  obtain ⟨starts, parts⟩ := Bool.and_eq_true_iff.mp named
  obtain ⟨taken, left⟩ := Text.takeWhile_append (List.all_eq_true.mp parts) ends
  rw [next_of_isNameStart starts, taken, left]

theorem scan_name {name rest : List Char} (named : isName name = true) (ends : Separates rest) :
    scan (name ++ rest) = .property (String.ofList name) :: scan rest := by
  cases name with
  | nil => cases named
  | cons first others => exact scan_of_next (next_name named fun char head => (ends char head).1)

end JsonQuery.Token
