import JsonQuery.Proofs.Query.Scanning

/-! The lexemes of a text. A text is cut into the lexemes of its tokens and single characters that
are dropped. What may be cut off its front is told without the scanner, each lexeme as long as it
can be, and there is one way only to cut a text up: the way in which the scanner does. -/

namespace JsonQuery.Token

/-- The signs that are tokens by themselves. -/
def signs : List (Char × Token) :=
  [('.', dot), ('(', opening), (')', closing), ('&', both), ('|', either), ('!', negation)]

/-- No lexeme starts with the character. -/
def Drops (char : Char) : Prop :=
  char ∉ ['.', '(', ')', '&', '|', '!', '*', '['] ∧ isNameStart char = false

/-- A text is a content between brackets, closed where none of the brackets in the content is
open, or never closed, so that nothing is behind it. -/
inductive Encloses (content : List Char) : List Char → List Char → Prop where
  | closed (balanced : Text.Balanced content) (behind : List Char) :
    Encloses content ('[' :: (content ++ [']'])) behind
  | unclosed {left : Nat} (nested : Text.nesting? 0 content = some left) :
    Encloses content ('[' :: content) []

/-- A text is the lexeme of a token in front of what is behind it. A name and a pair of stars are
as long as they can be, and a content in brackets is a slice if it reads as one. -/
inductive Lexeme : List Char → Token → List Char → Prop where
  | sign {char : Char} {token : Token} {behind : List Char} (listed : (char, token) ∈ signs) :
    Lexeme [char] token behind
  | wildcard {behind : List Char} (single : '*' ∉ behind.head?) : Lexeme ['*'] .wildcard behind
  | deepWildcard {behind : List Char} : Lexeme ['*', '*'] .deepWildcard behind
  | property {name behind : List Char} (named : isName name = true)
      (ends : ∀ char ∈ behind.head?, isNamePart char = false) :
    Lexeme name (.property (String.ofList name)) behind
  | slice {content text behind : List Char} {value : Slice}
      (encloses : Encloses content text behind) (reads : Slice.read? content = some value) :
    Lexeme text (.slice value) behind
  | filter {content text behind : List Char} (encloses : Encloses content text behind)
      (noSlice : Slice.read? content = none) :
    Lexeme text (.filter (String.ofList content)) behind

inductive Piece where
  | lexeme (text : List Char) (token : Token)
  | dropped (char : Char)

def Piece.token? : Piece → Option Token
  | lexeme _ token => some token
  | dropped _ => none

/-- A text is cut into pieces one behind the other: lexemes, and characters that start none. -/
inductive Cut : List Char → List Piece → Prop where
  | nil : Cut [] []
  | lexeme {text behind : List Char} {token : Token} {pieces : List Piece}
      (found : Lexeme text token behind) (rest : Cut behind pieces) :
    Cut (text ++ behind) (.lexeme text token :: pieces)
  | dropped {char : Char} {behind : List Char} {pieces : List Piece} (drops : Drops char)
      (rest : Cut behind pieces) : Cut (char :: behind) (.dropped char :: pieces)

/-- The pieces that the scanner cuts a text into. -/
def pieces (text : List Char) : List Piece :=
  match text with
  | [] => []
  | char :: rest =>
    (match next char rest with
      | (some token, after) => .lexeme ((char :: rest).take (rest.length + 1 - after.length)) token
      | (none, _) => .dropped char) :: pieces (next char rest).2
termination_by text.length
decreasing_by exact Nat.lt_succ_of_le (length_next_le char rest)

variable {char : Char} {text rest behind after content : List Char} {token : Token}
  {found : List Piece}

theorem pieces_of_next (taken : next char rest = (some token, after))
    (whole : char :: rest = text ++ after) :
    pieces (char :: rest) = .lexeme text token :: pieces after := by
  have length := congrArg List.length whole
  simp only [List.length_cons, List.length_append] at length
  have front : (char :: rest).take (rest.length + 1 - after.length) = text := by
    rw [length, Nat.add_sub_cancel, whole, List.take_left]
  rw [pieces, taken]
  simp only [front]

theorem pieces_of_dropped (taken : next char rest = (none, after)) :
    pieces (char :: rest) = .dropped char :: pieces after := by
  rw [pieces, taken]

theorem mem_signs_iff : (char, token) ∈ signs ↔ punctuation? char = some token := by
  unfold punctuation? signs
  split <;> simp_all [eq_comm]

theorem punctuation?_eq_none_iff :
    punctuation? char = none ↔ char ∉ ['.', '(', ')', '&', '|', '!'] := by
  unfold punctuation?
  split <;> simp_all

theorem drops_iff : Drops char ↔
    char ≠ '[' ∧ char ≠ '*' ∧ punctuation? char = none ∧ isNameStart char = false := by
  rw [punctuation?_eq_none_iff]
  simp only [Drops, List.mem_cons, List.not_mem_nil, or_false, not_or]
  tauto

theorem Drops.next (drops : Drops char) (rest : List Char) : next char rest = (none, rest) := by
  obtain ⟨noBracket, noStar, noSign, noName⟩ := drops_iff.mp drops
  unfold Token.next
  rw [if_neg noBracket, if_neg noStar, noSign]
  simp only [noName, Bool.false_eq_true, if_false]

theorem Encloses.lexeme (encloses : Encloses content text behind) :
    Lexeme text (ofBracket content) behind := by
  unfold ofBracket
  split
  · rename_i value reads
    exact .slice encloses reads
  · rename_i noSlice
    exact .filter encloses noSlice

theorem Encloses.next (encloses : Encloses content text behind) :
    ∃ rest, text = '[' :: rest ∧ next '[' (rest ++ behind) = (some (ofBracket content), behind) := by
  cases encloses with
  | closed balanced =>
    refine ⟨content ++ [']'], rfl, ?_⟩
    rw [List.append_assoc, List.singleton_append, next_bracket balanced]
  | unclosed nested =>
    refine ⟨content, rfl, ?_⟩
    rw [List.append_nil, next_unclosed nested]

theorem Lexeme.next (found : Lexeme text token behind) :
    ∃ char rest, text = char :: rest ∧ next char (rest ++ behind) = (some token, behind) := by
  cases found with
  | @sign char token _ listed =>
    exact ⟨char, [], rfl, next_punctuation (mem_signs_iff.mp listed) behind⟩
  | wildcard single => exact ⟨'*', [], rfl, next_wildcard single⟩
  | deepWildcard => exact ⟨'*', ['*'], rfl, rfl⟩
  | property named ends =>
    cases text with
    | nil => cases named
    | cons first others => exact ⟨first, others, rfl, next_name named ends⟩
  | slice encloses reads =>
    obtain ⟨rest, whole, taken⟩ := encloses.next
    refine ⟨'[', rest, whole, ?_⟩
    rw [taken, ofBracket, reads]
  | filter encloses noSlice =>
    obtain ⟨rest, whole, taken⟩ := encloses.next
    refine ⟨'[', rest, whole, ?_⟩
    rw [taken, ofBracket, noSlice]

theorem Lexeme.not_drops (found : Lexeme text token behind) : ∃ char ∈ text, ¬ Drops char := by
  obtain ⟨char, rest, rfl, taken⟩ := found.next
  refine ⟨char, List.mem_cons_self, fun drops => ?_⟩
  rw [drops.next] at taken
  cases taken

/-- What the scanner takes from the front of a text is a lexeme, or a character that starts none. -/
theorem next_cases (char : Char) (rest : List Char) :
    (∃ text token after, next char rest = (some token, after) ∧ char :: rest = text ++ after ∧
        Lexeme text token after) ∨
      next char rest = (none, rest) ∧ Drops char := by
  by_cases bracket : char = '['
  · subst bracket
    rcases splitBracket_cases 0 rest with ⟨content, after, rfl, closed⟩ | ⟨left, nested⟩
    · refine .inl ⟨'[' :: (content ++ [']']), _, after, next_bracket closed after, ?_,
        (Encloses.closed closed after).lexeme⟩
      rw [List.cons_append, List.append_assoc, List.singleton_append]
    · exact .inl ⟨'[' :: rest, _, [], next_unclosed nested, (List.append_nil _).symm,
        (Encloses.unclosed nested).lexeme⟩
  · by_cases star : char = '*'
    · subst star
      by_cases double : '*' ∈ rest.head?
      · obtain ⟨after, rfl⟩ := List.head?_eq_some_iff.mp double
        exact .inl ⟨['*', '*'], _, after, rfl, rfl, .deepWildcard⟩
      · exact .inl ⟨['*'], _, rest, next_wildcard double, rfl, .wildcard double⟩
    · cases sign : punctuation? char with
      | some token =>
        exact .inl ⟨[char], token, rest, next_punctuation sign rest, rfl,
          .sign (mem_signs_iff.mpr sign)⟩
      | none =>
        cases starts : isNameStart char with
        | true =>
          refine .inl ⟨char :: rest.takeWhile isNamePart, _, rest.dropWhile isNamePart,
            next_of_isNameStart starts rest, ?_, .property ?_ ?_⟩
          · rw [List.cons_append, List.takeWhile_append_dropWhile]
          · rw [isName, starts, Bool.true_and]
            exact List.all_takeWhile
          · exact Text.head?_dropWhile isNamePart rest
        | false =>
          have drops : Drops char := drops_iff.mpr ⟨bracket, star, sign, starts⟩
          exact .inr ⟨drops.next rest, drops⟩

theorem cut_pieces (text : List Char) : Cut text (pieces text) := by
  fun_induction pieces text with
  | case1 => exact .nil
  | case2 char rest ih =>
    rcases next_cases char rest with ⟨text, token, after, taken, whole, found⟩ | ⟨taken, drops⟩
    · rw [← pieces, pieces_of_next taken whole, whole]
      rw [taken] at ih
      exact .lexeme found ih
    · rw [← pieces, pieces_of_dropped taken]
      rw [taken] at ih
      exact .dropped drops ih

/-- There is no other way to cut a text up. -/
theorem Cut.eq_pieces (cut : Cut text found) : found = pieces text := by
  induction cut with
  | nil => rw [pieces]
  | @lexeme text behind token others found rest ih =>
    obtain ⟨char, following, rfl, taken⟩ := found.next
    have whole : char :: (following ++ behind) = (char :: following) ++ behind := rfl
    rw [← whole, pieces_of_next taken whole, ih]
  | dropped drops rest ih => rw [pieces_of_dropped (drops.next _), ih]

theorem Cut.eq_nil (cut : Cut [] found) : found = [] := by
  rw [cut.eq_pieces, pieces]

theorem filterMap_pieces (text : List Char) : (pieces text).filterMap Piece.token? = scan text := by
  fun_induction pieces text with
  | case1 => rw [scan_nil]; rfl
  | case2 char rest ih =>
    rw [scan_cons, List.filterMap_cons, ih]
    rcases next char rest with ⟨_ | token, after⟩ <;> rfl

theorem Cut.exists_lexeme (cut : Cut text found) :
    ∀ token ∈ found.filterMap Piece.token?, ∃ text behind, Lexeme text token behind := by
  induction cut with
  | nil => exact List.forall_mem_nil _
  | lexeme found _ ih => exact List.forall_mem_cons.mpr ⟨⟨_, _, found⟩, ih⟩
  | dropped _ _ ih => exact ih

theorem Cut.filterMap_eq_nil_iff (cut : Cut text found) :
    found.filterMap Piece.token? = [] ↔ ∀ char ∈ text, Drops char := by
  induction cut with
  | nil => simp
  | @lexeme text behind token others found rest ih =>
    obtain ⟨char, member, starts⟩ := found.not_drops
    constructor
    · intro none
      cases none
    · intro drops
      exact absurd (drops char (List.mem_append_left behind member)) starts
  | dropped drops rest ih =>
    rw [List.forall_mem_cons, ← ih]
    exact (and_iff_right drops).symm

/-- Every character is accounted for. A text is cut into pieces in one way only, and their tokens,
in order, are those that the scanner finds. So it finds none only where every character is
dropped. -/
theorem accounts_for_text (text : List Char) :
    (∀ found, Cut text found ↔ found = pieces text) ∧
      scan text = (pieces text).filterMap Piece.token? ∧
      (scan text = [] ↔ ∀ char ∈ text, Drops char) := by
  refine ⟨fun found => ⟨Cut.eq_pieces, ?_⟩, (filterMap_pieces text).symm, ?_⟩
  · rintro rfl
    exact cut_pieces text
  · rw [← filterMap_pieces]
    exact (cut_pieces text).filterMap_eq_nil_iff

end JsonQuery.Token
