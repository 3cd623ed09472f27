import JsonQuery.Query.Token

/-! The nesting of square brackets in a text, and how it decides where the text between
brackets ends. -/

namespace JsonQuery

namespace Text

/-- The number of open brackets behind a character; a bracket that closes needs one. -/
def countBracket? (unclosed : Nat) (char : Char) : Option Nat :=
  if char = '[' then some (unclosed + 1)
  else if char = ']' then if unclosed = 0 then none else some (unclosed - 1)
  else some unclosed

/-- The number of open brackets behind a text, if it never closes more than are open. -/
def nesting? (unclosed : Nat) (text : List Char) : Option Nat :=
  text.foldlM countBracket? unclosed

/-- A text closes every bracket that it opens, and none besides. -/
def Balanced (text : List Char) : Prop := nesting? 0 text = some 0

instance (text : List Char) : Decidable (Balanced text) :=
  inferInstanceAs (Decidable (nesting? 0 text = some 0))

def isBracket (char : Char) : Bool := char = '[' || char = ']'

def brackets (text : List Char) : List Char := text.filter isBracket

/-- A test that both brackets fail is passed by other characters only. -/
theorem isBracket_of_test {test : Char → Bool} {char : Char} (passes : test char = true)
    (opening : test '[' = false) (closing : test ']' = false) : isBracket char = false := by
  rw [Bool.eq_false_iff]
  intro bracket
  simp only [isBracket, Bool.or_eq_true, decide_eq_true_eq] at bracket
  rcases bracket with rfl | rfl
  · rw [opening] at passes
    cases passes
  · rw [closing] at passes
    cases passes

theorem countBracket?_of_plain (unclosed : Nat) {char : Char} (plain : isBracket char = false) :
    countBracket? unclosed char = some unclosed := by
  simp only [isBracket, Bool.or_eq_false_iff, decide_eq_false_iff_not] at plain
  rw [countBracket?, if_neg plain.1, if_neg plain.2]

theorem countBracket?_add {unclosed left : Nat} {char : Char} (more : Nat)
    (counted : countBracket? unclosed char = some left) :
    countBracket? (unclosed + more) char = some (left + more) := by
  unfold countBracket? at counted ⊢
  grind

theorem countBracket?_eq_none {unclosed : Nat} {char : Char} :
    countBracket? unclosed char = none ↔ char = ']' ∧ unclosed = 0 := by
  unfold countBracket?
  grind

theorem eq_zero_of_countBracket? {next : Nat} {char : Char} (other : char ≠ '[')
    (counted : countBracket? 0 char = some next) : next = 0 := by
  unfold countBracket? at counted
  grind

theorem nesting?_cons (unclosed : Nat) (char : Char) (rest : List Char) :
    nesting? unclosed (char :: rest) =
      (countBracket? unclosed char).bind fun next => nesting? next rest :=
  rfl

theorem nesting?_append (unclosed : Nat) (text more : List Char) :
    nesting? unclosed (text ++ more) =
      (nesting? unclosed text).bind fun between => nesting? between more :=
  List.foldlM_append

theorem brackets_of_plain {text : List Char} (plain : ∀ char ∈ text, isBracket char = false) :
    brackets text = [] :=
  List.filter_eq_nil_iff.mpr fun char member => Bool.eq_false_iff.mp (plain char member)

theorem brackets_append (text more : List Char) :
    brackets (text ++ more) = brackets text ++ brackets more :=
  List.filter_append text more

theorem nesting?_brackets (unclosed : Nat) (text : List Char) :
    nesting? unclosed (brackets text) = nesting? unclosed text := by
  unfold brackets
  induction text generalizing unclosed with
  | nil => rfl
  | cons char rest ih =>
    cases bracket : isBracket char with
    | true =>
      rw [List.filter_cons_of_pos bracket, nesting?_cons, nesting?_cons]
      simp only [ih]
    | false =>
      rw [List.filter_cons_of_neg (by simp [bracket]), nesting?_cons,
        countBracket?_of_plain unclosed bracket]
      exact ih unclosed

theorem nesting?_of_plain (unclosed : Nat) {text : List Char}
    (plain : ∀ char ∈ text, isBracket char = false) : nesting? unclosed text = some unclosed := by
  rw [← nesting?_brackets, brackets_of_plain plain]
  rfl

/-- Brackets that are open before a text stay open behind it. -/
theorem nesting?_add {unclosed left : Nat} {text : List Char} (more : Nat)
    (nested : nesting? unclosed text = some left) :
    nesting? (unclosed + more) text = some (left + more) := by
  induction text generalizing unclosed with
  | nil =>
    cases nested
    rfl
  | cons char rest ih =>
    rw [nesting?_cons] at nested ⊢
    obtain ⟨next, counted, later⟩ := Option.bind_eq_some_iff.mp nested
    rw [countBracket?_add more counted]
    exact ih later

theorem Balanced.of_plain {text : List Char} (plain : ∀ char ∈ text, isBracket char = false) :
    Balanced text :=
  nesting?_of_plain 0 plain

theorem nesting?_join {text more : List Char} {first second : Nat}
    (nested : nesting? 0 text = some first) (nestedMore : nesting? 0 more = some second) :
    nesting? 0 (text ++ more) = some (first + second) := by
  have deeper := nesting?_add first nestedMore
  rw [nesting?_append, nested, Nat.add_comm first]
  rwa [Nat.zero_add] at deeper

theorem nesting?_enclose {text : List Char} {left : Nat} (inner : nesting? 0 text = some left) :
    nesting? 0 ('[' :: (text ++ [']'])) = some left := by
  have deeper := nesting?_add 1 inner
  change nesting? (0 + 1) (text ++ [']']) = some left
  rw [nesting?_append, deeper]
  rfl

end Text

namespace Token

theorem splitBracket_of_some {unclosed next : Nat} {char : Char} (rest : List Char)
    (counted : Text.countBracket? unclosed char = some next) :
    splitBracket unclosed (char :: rest) =
      (char :: (splitBracket next rest).1, (splitBracket next rest).2) := by
  have goes : ¬ (char = ']' ∧ unclosed = 0) := by
    rw [← Text.countBracket?_eq_none, counted]
    exact Option.some_ne_none next
  have same : (if char = '[' then unclosed + 1 else if char = ']' then unclosed - 1
      else unclosed) = next := by
    unfold Text.countBracket? at counted
    grind
  rw [splitBracket, if_neg goes, same]

theorem splitBracket_closed {unclosed : Nat} {content : List Char}
    (closed : Text.nesting? unclosed content = some 0) (rest : List Char) :
    splitBracket unclosed (content ++ ']' :: rest) = (content, rest) := by
  induction content generalizing unclosed with
  | nil =>
    cases closed
    rfl
  | cons char content ih =>
    obtain ⟨next, counted, later⟩ := Option.bind_eq_some_iff.mp closed
    rw [List.cons_append, splitBracket_of_some _ counted, ih later]

theorem splitBracket_unclosed {unclosed left : Nat} {text : List Char}
    (nested : Text.nesting? unclosed text = some left) :
    splitBracket unclosed text = (text, []) := by
  induction text generalizing unclosed with
  | nil => rfl
  | cons char rest ih =>
    obtain ⟨next, counted, later⟩ := Option.bind_eq_some_iff.mp nested
    rw [splitBracket_of_some _ counted, ih later]

/-- A content is closed by the bracket behind it, or never closed and all that is left. -/
theorem splitBracket_cases (unclosed : Nat) (text : List Char) :
    (∃ content rest, text = content ++ ']' :: rest ∧ Text.nesting? unclosed content = some 0) ∨
      ∃ left, Text.nesting? unclosed text = some left := by
  induction text generalizing unclosed with
  | nil => exact .inr ⟨unclosed, rfl⟩
  | cons char rest ih =>
    cases counted : Text.countBracket? unclosed char with
    | none =>
      obtain ⟨rfl, rfl⟩ := Text.countBracket?_eq_none.mp counted
      exact .inl ⟨[], rest, rfl, rfl⟩
    | some next =>
      rcases ih next with ⟨content, after, rfl, closed⟩ | ⟨left, nested⟩
      · refine .inl ⟨char :: content, after, rfl, ?_⟩
        rw [Text.nesting?_cons, counted]
        exact closed
      · refine .inr ⟨left, ?_⟩
        rw [Text.nesting?_cons, counted]
        exact nested

end Token

end JsonQuery
