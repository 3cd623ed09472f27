import JsonQuery.Proofs.Query.Contents
import JsonQuery.Proofs.Query.FilterReread
import Mathlib.Algebra.Order.BigOperators.Group.List

/-! The brackets that filters leave open. An expression is written with as many open brackets as
its filters have together, and the first of them swallows what follows: what is read back
leaves fewer open. -/

namespace JsonQuery

theorem Text.isBracket_of_isBlank {char : Char} (blank : isBlank char = true) :
    isBracket char = false :=
  isBracket_of_test blank rfl rfl

theorem Text.brackets_trim (text : List Char) : brackets (trim text) = brackets text := by
  obtain ⟨left, right, leftBlank, rightBlank, whole, _⟩ := exists_trimBy isBlank text
  have leftPlain := brackets_of_plain fun char member => isBracket_of_isBlank (leftBlank char member)
  have rightPlain := brackets_of_plain fun char member => isBracket_of_isBlank (rightBlank char member)
  have around : brackets text = brackets (left ++ (trim text ++ right)) := congrArg brackets whole
  rw [around, brackets_append, brackets_append, leftPlain, rightPlain, List.nil_append,
    List.append_nil]

theorem Literal.brackets_written_read (text : List Char) :
    Text.brackets (read text).written = Text.brackets text := by
  rcases read_cases text with ⟨_, plain, numerals⟩ | ⟨inner, reads, shape⟩
  · have none : Text.brackets text = [] := Text.brackets_of_plain fun char member =>
      Text.isBracket_of_isNumeral (numerals char member)
    rw [brackets_written plain, none]
  · have around {quote : Char} (kind : quote = '\x22' ∨ quote = '\x27') :
        Text.brackets (quote :: (inner ++ [quote])) = Text.brackets inner := by
      have single : Text.brackets [quote] = [] := by
        rcases kind with rfl | rfl <;> decide
      rw [← List.singleton_append, Text.brackets_append, Text.brackets_append, single,
        List.nil_append, List.append_nil]
    rw [reads, written, String.toList_ofList, around (.inl rfl)]
    rcases shape with rfl | ⟨quote, kind, rfl⟩
    · rfl
    · exact (around kind).symm

namespace Filter

theorem brackets_written_read (text : List Char) :
    Text.brackets (read text).written = Text.brackets text := by
  rcases read_cases text with ⟨reads, _⟩ | ⟨operator, left, right, reads, cuts, _⟩
  · rw [reads, written, String.toList_ofList, Text.brackets_trim]
  · rw [reads, ofSides_written, cuts.whole]
    simp only [Text.brackets_append, Text.brackets_trim, Literal.brackets_written_read]

theorem nesting?_written_read (unclosed : Nat) (text : List Char) :
    Text.nesting? unclosed (read text).written = Text.nesting? unclosed text := by
  rw [← Text.nesting?_brackets, brackets_written_read, Text.nesting?_brackets]

/-- The number of brackets that the text of a filter leaves open. -/
def unclosed (filter : Filter) : Nat := (Text.nesting? 0 filter.written).getD 0

theorem unclosed_of_beq {left right : Filter} (same : (left == right) = true) :
    left.unclosed = right.unclosed := by
  unfold unclosed
  rw [← Text.nesting?_brackets, brackets_of_beq same, Text.nesting?_brackets]

/-- The number of brackets that some filters leave open together. -/
def totalUnclosed (filters : List Filter) : Nat := (filters.map unclosed).sum

theorem totalUnclosed_append (filters more : List Filter) :
    totalUnclosed (filters ++ more) = totalUnclosed filters + totalUnclosed more := by
  unfold totalUnclosed
  rw [List.map_append, List.sum_append]

theorem totalUnclosed_le_of_sublist {filters more : List Filter} (part : filters.Sublist more) :
    totalUnclosed filters ≤ totalUnclosed more :=
  (part.map unclosed).sum_le_sum fun _ _ => Nat.zero_le _

theorem totalUnclosed_of_beq {filters others : List Filter}
    (pairs : List.Forall₂ (fun one other => (one == other) = true) filters others) :
    totalUnclosed filters = totalUnclosed others := by
  unfold totalUnclosed
  induction pairs with
  | nil => rfl
  | cons same rest ih =>
    rw [List.map_cons, List.map_cons, List.sum_cons, List.sum_cons, unclosed_of_beq same, ih]

/-- The text of the filter never closes more brackets than it opened. -/
def Nested (filter : Filter) : Prop := Text.nesting? 0 filter.written = some filter.unclosed

theorem nested_read {text : List Char} {left : Nat} (nested : Text.nesting? 0 text = some left) :
    (read text).Nested := by
  unfold Nested unclosed
  rw [nesting?_written_read, nested]
  rfl

end Filter

namespace Segment

theorem nesting?_filterText {held : Option Filter} (nested : ∀ filter ∈ held, Filter.Nested filter) :
    Text.nesting? 0 (filterText held) = some (Filter.totalUnclosed held.toList) := by
  cases held with
  | none => rfl
  | some filter =>
    have inner : Text.nesting? 0 filter.written = some filter.unclosed := nested filter rfl
    exact Text.nesting?_enclose inner

theorem nesting?_sliceText (slice : Option Slice) : Text.nesting? 0 (sliceText slice) = some 0 := by
  cases slice with
  | none => rfl
  | some slice => exact Text.nesting?_enclose slice.balanced_written

theorem nesting?_written {segment : Segment}
    (named : ∀ name ∈ segment.name?, Token.isName name.toList = true)
    (nested : ∀ filter ∈ segment.filter?, filter.Nested) :
    Text.nesting? 0 segment.written = some (Filter.totalUnclosed segment.filter?.toList) := by
  cases segment with
  | property name filter slice =>
    have plain := Text.nesting?_of_plain 0 (Token.outside_of_isName (named name rfl))
    have whole := Text.nesting?_join (Text.nesting?_join plain (nesting?_filterText nested))
      (nesting?_sliceText slice)
    rwa [Nat.zero_add] at whole
  | wildcard filter =>
    have star : Text.nesting? 0 ['*'] = some 0 := rfl
    have whole := Text.nesting?_join star (nesting?_filterText nested)
    rwa [Nat.zero_add] at whole
  | deepWildcard filter =>
    have stars : Text.nesting? 0 ['*', '*'] = some 0 := rfl
    have whole := Text.nesting?_join stars (nesting?_filterText nested)
    rwa [Nat.zero_add] at whole

end Segment

theorem Chain.nesting?_written {chain : Chain}
    (named : ∀ segment ∈ chain, ∀ name ∈ segment.name?, Token.isName name.toList = true)
    (nested : ∀ segment ∈ chain, ∀ filter ∈ segment.filter?, Filter.Nested filter) :
    Text.nesting? 0 chain.written = some (Filter.totalUnclosed (chain.filterMap Segment.filter?)) := by
  induction chain with
  | nil => rfl
  | cons segment others ih =>
    obtain ⟨firstNamed, laterNamed⟩ := List.forall_mem_cons.mp named
    obtain ⟨firstNested, laterNested⟩ := List.forall_mem_cons.mp nested
    have first := Segment.nesting?_written firstNamed firstNested
    have later := ih laterNamed laterNested
    rw [List.filterMap_eq_flatMap_toList, List.flatMap_cons, ← List.filterMap_eq_flatMap_toList,
      Filter.totalUnclosed_append]
    cases others with
    | nil =>
      rw [written_singleton]
      exact first
    | cons next others =>
      have dot : Text.nesting? 0 ['.'] = some 0 := rfl
      have whole := Text.nesting?_join first (Text.nesting?_join dot later)
      rw [written_cons_cons]
      rwa [Nat.zero_add] at whole

namespace Expression

variable {expression : Expression}

theorem nesting?_written (named : ∀ name ∈ expression.names, Token.isName name.toList = true)
    (nested : ∀ filter ∈ expression.filters, filter.Nested) :
    Text.nesting? 0 expression.written = some (Filter.totalUnclosed expression.filters) := by
  induction expression with
  | chain segments =>
    exact Chain.nesting?_written
      (fun segment member name held => named name (mem_names member held))
      (fun segment member filter held => nested filter (mem_filters member held))
  | negation operand ih =>
    have sign : Text.nesting? 0 ['!'] = some 0 := rfl
    have whole := Text.nesting?_join sign (ih named nested)
    rwa [Nat.zero_add] at whole
  | joined connective left right leftIh rightIh =>
    rw [names_joined, List.forall_mem_append] at named
    rw [filters_joined, List.forall_mem_append] at nested
    have opening : Text.nesting? 0 ['('] = some 0 := rfl
    have sign : Text.nesting? 0 [connective.sign] = some 0 := by cases connective <;> rfl
    have closing : Text.nesting? 0 [')'] = some 0 := rfl
    have whole := Text.nesting?_join opening (Text.nesting?_join (leftIh named.1 nested.1)
      (Text.nesting?_join sign (Text.nesting?_join (rightIh named.2 nested.2) closing)))
    rw [Nat.zero_add, Nat.zero_add, Nat.add_zero, ← Filter.totalUnclosed_append] at whole
    rw [filters_joined]
    simpa [written] using whole

end Expression

namespace Token

theorem totalUnclosed_ofBracket_le {content : List Char} {left : Nat}
    (nested : Text.nesting? 0 content = some left) :
    Filter.totalUnclosed ([ofBracket content].filterMap filter?) ≤ left := by
  unfold ofBracket
  split
  · exact Nat.zero_le left
  · have same : Filter.totalUnclosed [Filter.read content] = left := by
      unfold Filter.totalUnclosed Filter.unclosed
      simp [Filter.nesting?_written_read, nested]
    rw [List.filterMap_eq_flatMap_toList, List.flatMap_singleton, filter?, String.toList_ofList]
    exact Nat.le_of_eq same

/-- The tokens of a text leave fewer brackets open than the text, if it leaves any open. -/
theorem totalUnclosed_scan_le {text : List Char} {left : Nat}
    (nested : Text.nesting? 0 text = some left) :
    Filter.totalUnclosed ((scan text).filterMap filter?) ≤ left - 1 := by
  rw [← filterMap_pieces]
  have cut := cut_pieces text
  generalize pieces text = found at cut ⊢
  induction cut generalizing left with
  | nil => exact Nat.zero_le _
  | @lexeme text behind token pieces found rest ih =>
    have first : (Piece.lexeme text token :: pieces).filterMap Piece.token? =
        [token] ++ pieces.filterMap Piece.token? := rfl
    rw [first, List.filterMap_append, Filter.totalUnclosed_append]
    rcases found.enclosed_or_plain with ⟨content, encloses, rfl⟩ | ⟨plain, noFilter⟩
    · cases encloses with
      | closed balanced =>
        have nothing : Filter.totalUnclosed ([ofBracket content].filterMap filter?) ≤ 0 :=
          totalUnclosed_ofBracket_le balanced
        rw [Text.nesting?_append, Text.nesting?_enclose balanced] at nested
        rw [Nat.le_zero.mp nothing, Nat.zero_add]
        exact ih nested
      | @unclosed inside inner =>
        have deeper : Text.nesting? 0 ('[' :: content) = some (inside + 1) :=
          Text.nesting?_add 1 inner
        rw [List.append_nil] at nested
        obtain rfl := Option.some.inj (deeper.symm.trans nested)
        obtain rfl := rest.eq_nil
        exact totalUnclosed_ofBracket_le inner
    · have nothing : Filter.totalUnclosed ([token].filterMap filter?) = 0 := by
        rw [List.filterMap_cons_none noFilter]
        rfl
      rw [Text.nesting?_append, Text.nesting?_of_plain 0 plain] at nested
      rw [nothing, Nat.zero_add]
      exact ih nested
  | @dropped char behind pieces drops rest ih =>
    obtain ⟨next, counted, passed⟩ := Option.bind_eq_some_iff.mp nested
    obtain rfl := Text.eq_zero_of_countBracket? (drops_iff.mp drops).1 counted
    exact ih passed

end Token

end JsonQuery
