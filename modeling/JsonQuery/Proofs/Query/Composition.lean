import JsonQuery.Proofs.Query.Locality
import JsonQuery.Proofs.Query.Nesting
import Mathlib

/-! Texts compose. Between parentheses a text that reads still reads as the same expression,
so that texts can be negated and joined without looking at them. -/

namespace JsonQuery

namespace Token

/-- A text that leaves no bracket open scans to a group between parentheses. -/
theorem scan_group {text : List Char} (closed : Text.leftOpen text = 0) (rest : List Char) :
    scan ('(' :: (text ++ ')' :: rest)) =
      (.opening :: (scan text ++ [.closing])) ++ scan rest := by
  have ends : Separates (')' :: rest) := separates_cons rfl (by decide) rest
  rw [scan_punctuation rfl, scan_append closed ends, scan_punctuation rfl, List.cons_append,
    List.append_assoc, List.singleton_append]

theorem scan_last_group {text : List Char} (closed : Text.leftOpen text = 0) :
    scan ('(' :: (text ++ [')'])) = .opening :: (scan text ++ [.closing]) := by
  rw [scan_group closed, scan_nil, List.append_nil]

end Token

namespace Expression

/-- A text reads as an expression, leaves no bracket open, and stays two groups or negations
below the limit of nesting and one connective below the limit of height. -/
structure Composable (text : String) (expression : Expression) : Prop where
  reads : Expression.read text = .ok expression
  closed : Text.leftOpen text.toList = 0
  shallow : Token.nestingDepth (Token.scan text.toList) ≤ 254
  low : expression.height ≤ 255

theorem Composable.derives {text : String} {expression : Expression}
    (composable : Composable text expression) : ∃ depth ≤ 255, Derives .operand
      (.opening :: (Token.scan text.toList ++ [.closing])) expression depth := by
  obtain ⟨depth, derives, _⟩ := ofTokens_sound composable.reads
  have shallow := composable.shallow
  rw [← derives.depth_eq] at shallow
  exact ⟨depth + 1, Nat.succ_le_succ shallow, .group derives⟩

theorem read_of_derives {text : String} {expression : Expression} {depth : Nat}
    (derives : Derives .disjunction (Token.scan text.toList) expression depth)
    (within : depth ≤ 256) (fits : expression.height ≤ 256) :
    Expression.read text = .ok expression :=
  (ofTokens_settles derives).1 ⟨within, fits⟩

variable {first second : String} {left right : Expression}

private theorem read_joined (connective : Connective) (composable : Composable first left)
    (other : Composable second right) {text : String}
    (written : text.toList = '(' :: (first.toList ++
      ')' :: connective.sign :: '(' :: (second.toList ++ [')']))) :
    Expression.read text = .ok (.joined connective left right) := by
  obtain ⟨depth, within, derives⟩ := composable.derives
  obtain ⟨otherDepth, otherWithin, otherDerives⟩ := other.derives
  have signed (rest : List Char) :
      Token.scan (connective.sign :: rest) = connective.token :: Token.scan rest := by
    cases connective <;> exact Token.scan_punctuation rfl rest
  have tokens : Token.scan text.toList =
      (.opening :: (Token.scan first.toList ++ [.closing])) ++
        connective.token :: (.opening :: (Token.scan second.toList ++ [.closing])) := by
    rw [written, Token.scan_group composable.closed, signed, Token.scan_last_group other.closed]
  have low := composable.low
  have otherLow := other.low
  have fits : (joined connective left right).height ≤ 256 :=
    Nat.succ_le_succ (Nat.max_le.mpr ⟨low, otherLow⟩)
  have deep : max depth otherDepth ≤ 256 := by omega
  refine read_of_derives ?_ deep fits
  rw [tokens]
  cases connective with
  | both => exact .conjunction (.both (.single derives) otherDerives)
  | either => exact .either (.conjunction (.single derives)) (.single otherDerives)

/-- Parentheses alone change nothing. -/
theorem Composable.read_group (composable : Composable first left) :
    Expression.read ("(" ++ first ++ ")") = .ok left := by
  obtain ⟨depth, within, derives⟩ := composable.derives
  have tokens : Token.scan ("(" ++ first ++ ")").toList =
      .opening :: (Token.scan first.toList ++ [.closing]) := by
    have written : ("(" ++ first ++ ")").toList = '(' :: (first.toList ++ [')']) := by simp
    rw [written, Token.scan_last_group composable.closed]
  have whole := Derives.conjunction (.single derives)
  rw [← tokens] at whole
  exact read_of_derives whole (Nat.le_succ_of_le within) (Nat.le_succ_of_le composable.low)

/-- The sign before a group negates it. -/
theorem Composable.read_negated_group (composable : Composable first left) :
    Expression.read ("!(" ++ first ++ ")") = .ok (.negation left) := by
  obtain ⟨depth, within, derives⟩ := composable.derives
  have tokens : Token.scan ("!(" ++ first ++ ")").toList =
      .negation :: .opening :: (Token.scan first.toList ++ [.closing]) := by
    have written : ("!(" ++ first ++ ")").toList = '!' :: '(' :: (first.toList ++ [')']) := by simp
    rw [written, Token.scan_punctuation rfl, Token.scan_last_group composable.closed]
  have whole := Derives.conjunction (.single (.negation derives))
  rw [← tokens] at whole
  exact read_of_derives whole (Nat.succ_le_succ within) (Nat.succ_le_succ composable.low)

/-- Two texts between parentheses are joined by the sign between them, one is negated by the
sign before it, and parentheses alone change nothing. -/
theorem read_grouped (composable : Composable first left) (other : Composable second right) :
    Expression.read ("(" ++ first ++ ")&(" ++ second ++ ")") = .ok (.joined .both left right) ∧
      Expression.read ("(" ++ first ++ ")|(" ++ second ++ ")") =
        .ok (.joined .either left right) ∧
      Expression.read ("!(" ++ first ++ ")") = .ok (.negation left) ∧
      Expression.read ("(" ++ first ++ ")") = .ok left := by
  refine ⟨read_joined .both composable other ?_, read_joined .either composable other ?_,
    composable.read_negated_group, composable.read_group⟩
  · simp [Connective.sign]
  · simp [Connective.sign]

/-- A text with a character that is dropped, a stray bracket and a filter with brackets of its
own, before an empty text. -/
theorem read_grouped_stray :
    Composable "é]!a[b[0]]" (.negation (.chain [.property "a" (some (.existence ⟨"b[0]"⟩)) none])) ∧
      Composable "" (.chain []) ∧
      Expression.read ("(" ++ "é]!a[b[0]]" ++ ")&(" ++ "" ++ ")") = .ok (.joined .both
        (.negation (.chain [.property "a" (some (.existence ⟨"b[0]"⟩)) none])) (.chain [])) := by
  have depth : Token.nestingDepth (Token.scan "é]!a[b[0]]".toList) = 1 := by cbv
  have stray : Composable "é]!a[b[0]]"
      (.negation (.chain [.property "a" (some (.existence ⟨"b[0]"⟩)) none])) :=
    ⟨by cbv, by decide, depth ▸ by decide, by decide⟩
  have emptyDepth : Token.nestingDepth (Token.scan "".toList) = 0 := by cbv
  have empty : Composable "" (.chain []) := ⟨by cbv, by decide, emptyDepth ▸ by decide, by decide⟩
  exact ⟨stray, empty, (read_grouped stray empty).1⟩

end Expression

end JsonQuery
