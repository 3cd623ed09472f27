import JsonQuery.Proofs.Evaluation.Answer
import JsonQuery.Proofs.Selection.Joining
import JsonQuery.Settings

/-! When joined expressions count as true. A negation is a single truth value, but in a
union or an intersection this value is a node like others, and a list of nodes counts as
true whatever is in it. -/

namespace JsonQuery

namespace Expression

def isNegation : Expression → Bool
  | negation _ => true
  | _ => false

/-- Only two selections count as false: that of nothing, and that of a negation of something
true. -/
theorem selection_of_falsy [PatternEngine] {expression : Expression} {value : Json}
    (falsy : (expression.selection value).truthy = false) :
    expression.selection value = .empty ∨
      expression.isNegation = true ∧ expression.selection value = .verdict false := by
  cases expression with
  | chain segments => exact .inl (Selection.empty_of_falsy falsy)
  | negation operand =>
    refine .inr ⟨rfl, ?_⟩
    rw [selection] at falsy ⊢
    exact congrArg Selection.verdict falsy
  | joined connective left right => exact .inl (Connective.join_of_falsy falsy)

/-- The selection of an expression has a node if it counts as true, and that of a negation
has one in any case. -/
theorem toList_selection_ne_nil [PatternEngine] (expression : Expression) (value : Json) :
    (expression.selection value).toList ≠ [] ↔
      (expression.selection value).truthy = true ∨ expression.isNegation = true := by
  cases truthy : (expression.selection value).truthy with
  | true => simp [Selection.toList_ne_nil_of_truthy truthy]
  | false =>
    rcases selection_of_falsy truthy with empty | ⟨negation, verdict⟩
    · have other : expression.isNegation = false := by
        cases expression with
        | negation operand => cases empty
        | chain | joined => rfl
      simp [empty, other, Selection.empty, Selection.toList]
    · simp [verdict, negation, Selection.verdict, Selection.toList]

/-- A disjunction counts as true if and only if one of its sides does or is a negation. A
conjunction counts as true only if its left side does, and its right side as well unless that
is a negation and the left side has a false among its nodes. -/
theorem truthy_joined [PatternEngine] (left right : Expression) (value : Json) :
    (((joined .either left right).answer value).truthy = true ↔
      (left.answer value).truthy = true ∨ (right.answer value).truthy = true ∨
        left.isNegation = true ∨ right.isNegation = true) ∧
    (((joined .both left right).answer value).truthy = true →
      (left.answer value).truthy = true ∧ ((right.answer value).truthy = true ∨
        right.isNegation = true ∧
          ∃ node ∈ (left.answer value).toList, node.identity = .bool false)) := by
  simp only [answer_eq_selection, selection]
  constructor
  · rw [Connective.truthy_join_either, toList_selection_ne_nil, toList_selection_ne_nil, or_or_or_comm,
      or_assoc]
  · intro truthy
    obtain ⟨first, node, member, shared⟩ := (Connective.truthy_join_both _ _).mp truthy
    refine ⟨first, ?_⟩
    cases second : (right.selection value).truthy with
    | true => exact .inl rfl
    | false =>
      rcases selection_of_falsy second with empty | ⟨negation, verdict⟩
      · simp [empty, Selection.empty, Selection.toList] at shared
      · rw [verdict] at shared
        exact .inr ⟨negation, node, member, List.mem_singleton.mp shared⟩

/-- With nothing but a false under the key, both the disjunction of the negated key with a
missing key and the conjunction of the key with its negation count as true, though the
negation does not. -/
theorem truthy_joined_of_falsy :
    ((negation (chain [.property "a" none none])).answer (.object [("a", .bool false)])).truthy =
        false ∧
      ((chain [.property "b" none none]).answer (.object [("a", .bool false)])).truthy = false ∧
      ((joined .either (negation (chain [.property "a" none none]))
        (chain [.property "b" none none])).answer (.object [("a", .bool false)])).truthy = true ∧
      ((joined .both (chain [.property "a" none none])
        (negation (chain [.property "a" none none]))).answer
          (.object [("a", .bool false)])).truthy = true := by
  simp only [answer_eq_selection]
  decide

end Expression

end JsonQuery
