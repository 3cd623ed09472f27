import JsonQuery.Proofs.Evaluation.Answer
import JsonQuery.Proofs.Selection.Joining
import JsonQuery.Settings

/-! Without negations the connectives obey the laws of a lattice, apart from the order of
operands: the nodes and their order are the same on both sides of each law. -/

namespace JsonQuery.Expression

def isNegationFree : Expression → Bool
  | chain _ => true
  | negation _ => false
  | joined _ left right => left.isNegationFree && right.isNegationFree

theorem selection_of_negationFree [PatternEngine] {expression : Expression}
    (free : expression.isNegationFree = true) (value : Json) :
    ∃ nodes, expression.selection value = .nodes nodes := by
  induction expression with
  | chain segments => exact ⟨_, rfl⟩
  | negation operand => cases free
  | joined connective left right leftIh rightIh =>
    obtain ⟨leftFree, rightFree⟩ := Bool.and_eq_true_iff.mp free
    obtain ⟨nodes, first⟩ := leftIh leftFree
    obtain ⟨others, second⟩ := rightIh rightFree
    rw [selection, first, second]
    cases connective with
    | both => exact ⟨_, Connective.join_both_nodes nodes others⟩
    | either => exact ⟨_, Connective.join_either_nodes nodes others⟩

/-- Both connectives are associative and idempotent and absorb each other. -/
theorem lattice_laws [PatternEngine] (first second third : Expression) (value : Json)
    (firstFree : first.isNegationFree = true) (secondFree : second.isNegationFree = true)
    (thirdFree : third.isNegationFree = true) :
    (joined .both (joined .both first second) third).answer value =
        (joined .both first (joined .both second third)).answer value ∧
      (joined .either (joined .either first second) third).answer value =
        (joined .either first (joined .either second third)).answer value ∧
      (joined .both first first).answer value = first.answer value ∧
      (joined .either first first).answer value = first.answer value ∧
      (joined .both first (joined .either first second)).answer value = first.answer value ∧
      (joined .either first (joined .both first second)).answer value = first.answer value := by
  obtain ⟨nodes, selected⟩ := selection_of_negationFree firstFree value
  obtain ⟨others, selectedNext⟩ := selection_of_negationFree secondFree value
  obtain ⟨last, selectedLast⟩ := selection_of_negationFree thirdFree value
  simp only [answer_eq_selection, selection, selected, selectedNext, selectedLast,
    Connective.join_both_nodes, Connective.join_either_nodes]
  refine ⟨?_, ?_, ?_, ?_, ?_, ?_⟩
  · rw [Node.common_assoc]
  · rw [Node.orElse_assoc]
  · rw [Node.common_self]
  · rw [Node.orElse_self]
  · rw [Node.common_orElse]
  · rw [Node.orElse_common]

/-- The equal elements of an array are all kept when the array is joined with others. -/
theorem lattice_laws_repeated :
    (joined .both (chain [.property "a" none none])
        (joined .either (chain [.property "a" none none]) (chain [.wildcard none]))).answer
          (.object [("a", .array [.null, .null]), ("b", .array [.null])]) =
      .nodes [.part [0, 0] .null, .part [0, 1] .null] := by
  have absorbed := (lattice_laws (chain [.property "a" none none]) (chain [.wildcard none])
    (chain []) (.object [("a", .array [.null, .null]), ("b", .array [.null])]) rfl rfl rfl).2.2.2.2.1
  rw [absorbed, answer_eq_selection]
  rfl

end JsonQuery.Expression
