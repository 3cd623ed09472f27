import JsonQuery.Query.Filter
import JsonQuery.Proofs.Text.Trim

/-! Where an operator occurs in texts that are put together: in one of them, or across the
edge between two of them with one of its characters on either side. -/

namespace JsonQuery

def Text.isOperatorChar (char : Char) : Bool :=
  char = '=' || char = '>' || char = '<' || char = '~'

/-- No character of the text is part of an operator. -/
def Text.Signless (text : List Char) : Prop := ∀ char ∈ text, isOperatorChar char = false

instance (text : List Char) : Decidable (Text.Signless text) :=
  decidable_of_iff (text.all fun char => !Text.isOperatorChar char) (by simp [Text.Signless])

/-- A test that all four signs fail is passed by other characters only. -/
theorem Text.isOperatorChar_of_test {test : Char → Bool} {char : Char} (passes : test char = true)
    (equal : test '=' = false) (greater : test '>' = false) (less : test '<' = false)
    (tilde : test '~' = false) : isOperatorChar char = false := by
  rw [Bool.eq_false_iff]
  intro sign
  simp only [isOperatorChar, Bool.or_eq_true, decide_eq_true_eq] at sign
  rcases sign with ((rfl | rfl) | rfl) | rfl
  · rw [equal] at passes
    cases passes
  · rw [greater] at passes
    cases passes
  · rw [less] at passes
    cases passes
  · rw [tilde] at passes
    cases passes

theorem Text.isOperatorChar_of_isBlank {char : Char} (blank : isBlank char = true) :
    isOperatorChar char = false :=
  isOperatorChar_of_test blank rfl rfl rfl rfl

theorem Text.Signless.append {text more : List Char} (first : Signless text)
    (second : Signless more) : Signless (text ++ more) :=
  List.forall_mem_append.mpr ⟨first, second⟩

theorem Text.Signless.of_blank {text : List Char} (blank : ∀ char ∈ text, isBlank char = true) :
    Signless text :=
  fun char member => isOperatorChar_of_isBlank (blank char member)

/-- An operator is looked for before another one. -/
def Comparison.Precedes (earlier later : Comparison) : Prop :=
  Filter.operators.idxOf earlier < Filter.operators.idxOf later

instance (earlier later : Comparison) : Decidable (earlier.Precedes later) :=
  inferInstanceAs (Decidable (Filter.operators.idxOf earlier < Filter.operators.idxOf later))

theorem Comparison.precedes_cases (one other : Comparison) :
    one.Precedes other ∨ one = other ∨ other.Precedes one := by
  cases one <;> cases other <;> decide

namespace Comparison

variable {operator other : Comparison} {left right before after text : List Char}

theorem more_cases (operator : Comparison) :
    operator.symbol.2 = [] ∨ operator.symbol.2 = ['='] := by
  cases operator with
  | equal | greater | less | matching => exact .inl rfl
  | greaterOrEqual | lessOrEqual => exact .inr rfl

theorem fresh (operator : Comparison) : operator.symbol.1 ∉ operator.symbol.2 := by
  cases operator <;> decide

theorem isOperatorChar_of_mem_written {char : Char} (member : char ∈ operator.written) :
    Text.isOperatorChar char = true := by
  cases operator <;> simp only [written, symbol, List.mem_cons, List.not_mem_nil, or_false] at member
  case greaterOrEqual | lessOrEqual => rcases member with rfl | rfl <;> rfl
  all_goals rw [member]; rfl

theorem not_infix_of_signless (signless : Text.Signless text) : ¬ operator.written <:+: text := by
  intro inside
  have first : operator.symbol.1 ∈ operator.written := List.mem_cons_self
  have plain := signless _ (inside.subset first)
  rw [isOperatorChar_of_mem_written first] at plain
  cases plain

theorem written_eq_append (parted : operator.written = before ++ after) :
    before = [] ∧ after = operator.written ∨ after = [] ∧ before = operator.written ∨
      operator.symbol.2 = ['='] ∧ before = [operator.symbol.1] ∧ after = ['='] := by
  cases before with
  | nil => exact .inl ⟨rfl, parted.symm⟩
  | cons char before =>
    obtain ⟨rfl, rest⟩ := List.cons.inj parted
    rcases operator.more_cases with single | double
    · rw [single] at rest
      obtain ⟨rfl, rfl⟩ := List.append_eq_nil_iff.mp rest.symm
      exact .inr (.inl ⟨rfl, by rw [written, single]⟩)
    · rw [double] at rest
      cases before with
      | nil => exact .inr (.inr ⟨double, rfl, rest.symm⟩)
      | cons next before =>
        obtain ⟨rfl, nothing⟩ := List.cons.inj rest
        obtain ⟨rfl, rfl⟩ := List.append_eq_nil_iff.mp nothing.symm
        exact .inr (.inl ⟨rfl, by rw [written, double]⟩)

theorem occurs_cases (whole : left ++ (operator.written ++ right) = before ++ after) :
    (∃ rest, before = left ++ (operator.written ++ rest) ∧ right = rest ++ after) ∨
      (∃ rest, after = rest ++ (operator.written ++ right) ∧ left = before ++ rest) ∨
      operator.symbol.2 = ['='] ∧ before = left ++ [operator.symbol.1] ∧ after = '=' :: right := by
  rcases List.append_eq_append_iff.mp whole with ⟨front, rfl, behind⟩ | ⟨rest, rfl, behind⟩
  · rcases List.append_eq_append_iff.mp behind with ⟨rest, rfl, rfl⟩ | ⟨back, parted, rfl⟩
    · exact .inl ⟨rest, rfl, rfl⟩
    · rcases written_eq_append parted with ⟨rfl, rfl⟩ | ⟨rfl, rfl⟩ | ⟨double, rfl, rfl⟩
      · exact .inr (.inl ⟨[], rfl, by rw [List.append_nil, List.append_nil]⟩)
      · exact .inl ⟨[], by rw [List.append_nil], rfl⟩
      · exact .inr (.inr ⟨double, rfl, rfl⟩)
  · exact .inr (.inl ⟨rest, behind, rfl⟩)

/-- The two characters of an operator stand on either side of an edge. -/
structure Crosses (operator : Comparison) (before after : List Char) : Prop where
  double : operator.symbol.2 = ['=']
  ends : operator.symbol.1 ∈ before.getLast?
  starts : '=' ∈ after.head?

theorem infix_append_cases (inside : operator.written <:+: before ++ after) :
    operator.written <:+: before ∨ operator.written <:+: after ∨ operator.Crosses before after := by
  obtain ⟨left, right, whole⟩ := inside
  rw [List.append_assoc] at whole
  rcases occurs_cases whole with ⟨rest, rfl, _⟩ | ⟨rest, rfl, _⟩ | ⟨double, rfl, rfl⟩
  · exact .inl (List.infix_append' _ _ _)
  · exact .inr (.inl (List.infix_append' _ _ _))
  · exact .inr (.inr ⟨double, List.getLast?_concat, rfl⟩)

theorem Crosses.not_signless_before (crosses : operator.Crosses before after) :
    ¬ Text.Signless before := by
  intro signless
  have plain := signless _ (List.mem_of_getLast? crosses.ends)
  have first : operator.symbol.1 ∈ operator.written := List.mem_cons_self
  rw [isOperatorChar_of_mem_written first] at plain
  cases plain

theorem Crosses.not_signless_after (crosses : operator.Crosses before after) :
    ¬ Text.Signless after :=
  fun signless => absurd (signless _ (List.mem_of_head? crosses.starts)) (by decide)

theorem infix_signless_append (signless : Text.Signless before) :
    operator.written <:+: before ++ text ↔ operator.written <:+: text := by
  constructor
  · intro inside
    rcases infix_append_cases inside with early | late | crosses
    · exact absurd early (not_infix_of_signless signless)
    · exact late
    · exact absurd signless crosses.not_signless_before
  · exact List.infix_append_of_infix_right

theorem infix_append_signless (signless : Text.Signless after) :
    operator.written <:+: text ++ after ↔ operator.written <:+: text := by
  constructor
  · intro inside
    rcases infix_append_cases inside with early | late | crosses
    · exact early
    · exact absurd late (not_infix_of_signless signless)
    · exact absurd signless crosses.not_signless_after
  · exact List.infix_append_of_infix_left

theorem occurs_between (signlessBefore : Text.Signless before)
    (signlessAfter : Text.Signless after)
    (whole : left ++ (operator.written ++ right) = before ++ (text ++ after)) :
    ∃ start rest, left = before ++ start ∧ right = rest ++ after ∧
      text = start ++ (operator.written ++ rest) := by
  rcases occurs_cases whole with ⟨rest, rfl, _⟩ | ⟨start, late, rfl⟩ | ⟨_, rfl, _⟩
  · have inside : operator.written <:+: left ++ (operator.written ++ rest) :=
      List.infix_append' _ _ _
    exact absurd inside (not_infix_of_signless signlessBefore)
  · rcases occurs_cases late.symm with ⟨rest, rfl, rfl⟩ | ⟨rest, rfl, _⟩ | ⟨_, _, rfl⟩
    · exact ⟨start, rest, rfl, rfl, rfl⟩
    · have inside : operator.written <:+: rest ++ (operator.written ++ right) :=
        List.infix_append' _ _ _
      exact absurd inside (not_infix_of_signless signlessAfter)
    · exact absurd (signlessAfter '=' List.mem_cons_self) (by decide)
  · have first : operator.symbol.1 ∈ operator.written := List.mem_cons_self
    have plain := signlessBefore _ (List.mem_append_right left (List.mem_singleton.mpr rfl))
    rw [isOperatorChar_of_mem_written first] at plain
    cases plain

/-- An operator that begins as another one goes on is part of it. -/
theorem Crosses.infix_before (crosses : operator.Crosses before (other.written ++ after)) :
    other.written <:+: operator.written := by
  have equal : other.symbol.1 = '=' := Option.some.inj crosses.starts
  have same : other.written = ['='] := by
    cases other <;> first | rfl | exact absurd equal (by decide)
  rw [same, written, crosses.double]
  exact ⟨[operator.symbol.1], [], rfl⟩

/-- An operator that ends as another one begins is part of it. -/
theorem Crosses.infix_after (crosses : operator.Crosses other.written after) :
    other.written <:+: operator.written := by
  obtain ⟨double, ends, _⟩ := crosses
  cases operator with
  | equal | greater | less | matching => cases double
  | greaterOrEqual | lessOrEqual => cases other <;> first | decide | exact absurd ends (by decide)

/-- Around another operator that has nothing in common with it, an operator occurs before it
or behind it. -/
theorem infix_around (noPart : ¬ other.written <:+: operator.written)
    (noWhole : ¬ operator.written <:+: other.written) :
    operator.written <:+: before ++ (other.written ++ after) ↔
      operator.written <:+: before ∨ operator.written <:+: after := by
  constructor
  · intro inside
    rcases infix_append_cases inside with early | late | crosses
    · exact .inl early
    · rcases infix_append_cases late with here | behind | crosses
      · exact absurd here noWhole
      · exact .inr behind
      · exact absurd crosses.infix_after noPart
    · exact absurd crosses.infix_before noPart
  · rintro (early | late)
    · exact List.infix_append_of_infix_left early
    · exact List.infix_append_of_infix_right (List.infix_append_of_infix_right late)

theorem infix_trim (operator : Comparison) (text : List Char) :
    operator.written <:+: Text.trim text ↔ operator.written <:+: text := by
  obtain ⟨left, right, leftBlank, rightBlank, whole, _⟩ := Text.exists_trimBy Text.isBlank text
  have same : left ++ (Text.trim text ++ right) = text := whole.symm
  rw [← infix_append_signless (.of_blank rightBlank), ← infix_signless_append (.of_blank leftBlank),
    same]

theorem not_infix_of_precedes (precedes : operator.Precedes other) :
    ¬ operator.written <:+: other.written := by
  cases operator <;> cases other <;> first | exact absurd precedes (by decide) | decide

end Comparison

end JsonQuery
