import JsonQuery.Proofs.Query.OrderOperators
import JsonQuery.Proofs.Selection.SetAlgebra

/-! Nodes of one identity are interchangeable. A double enters a comparison by its rank alone, so
that numbers which are one member of a set compare alike with everything. -/

namespace JsonQuery

theorem Number.compare?_of_rank {one other : Number} (same : one.rank = other.rank)
    (right : Binary64) : one.toBinary64.compare? right = other.toBinary64.compare? right := by
  simp only [Binary64.compare?, rank?_toBinary64, same]

namespace Comparison

theorem relate_number (number : Number) (right : Literal) :
    relate (some (.number number)) right = number.toBinary64.compare? right.toNumber := by
  have mixed : ¬ BothStrings (some (.number number)) right := by rintro ⟨⟩
  rw [relate_eq_compare? mixed, Resolved.toNumber_some, Json.toNumber]

theorem holds?_of_ne_matching {operator : Comparison} (plain : operator ≠ matching)
    (left : Resolved) (right : Literal) : ∃ answer, operator.holds? left right = some answer := by
  cases operator with
  | matching => exact absurd rfl plain
  | equal | greater | less | greaterOrEqual | lessOrEqual => exact ⟨_, rfl⟩

section Ranks

variable {one other : Number}

theorem relate_of_rank (same : one.rank = other.rank) (right : Literal) :
    relate (some (.number one)) right = relate (some (.number other)) right := by
  rw [relate_number, relate_number, Number.compare?_of_rank same]

/-- Only beside a number does equality look at the value of a number, and there at its rank. -/
theorem strictlyEqual_of_rank (same : one.rank = other.rank) (right : Literal) :
    strictlyEqual (some (.number one)) right = strictlyEqual (some (.number other)) right := by
  cases right with
  | number value =>
    apply Bool.eq_iff_iff.mpr
    simp only [strictlyEqual, Binary64.beq_iff_compare?, Number.compare?_of_rank same]
  | undefined | null | bool | string => rfl

theorem holds?_of_rank (same : one.rank = other.rank) (operator : Comparison) (right : Literal) :
    operator.holds? (some (.number one)) right = operator.holds? (some (.number other)) right := by
  simp only [holds?, strictlyEqual_of_rank same, relate_of_rank same]

end Ranks

end Comparison

namespace Node

variable {node other : Node}

theorem identity_eq_identityAt (node : Node) :
    node.identity = identityAt (node.position?.getD []) node.value := by
  cases node <;> rfl

/-- Identical nodes that are no containers have one value, unless they are numbers of one rank. -/
theorem eq_or_rank_of_identity (scalar : node.value.isContainer = false)
    (same : node.identity = other.identity) : node.value = other.value ∨
      ∃ one two : Number,
        node.value = .number one ∧ other.value = .number two ∧ one.rank = two.rank := by
  rw [identity_eq_identityAt, identity_eq_identityAt] at same
  generalize node.value = left at scalar same
  generalize other.value = right at same
  cases left <;> cases right <;> simp_all [identityAt, Json.isContainer]

/-- No operator but that of patterns tells identical nodes apart that are no containers: beside any
literal it has one answer for both of them. And both of them count as true, or neither does. -/
theorem alike_to_operators (scalar : node.value.isContainer = false)
    (same : node.identity = other.identity) :
    (∀ operator : Comparison, operator ≠ .matching → ∀ right : Literal, ∃ answer,
      operator.holds? (some node.value) right = some answer ∧
        operator.holds? (some other.value) right = some answer) ∧
      node.value.truthy = other.value.truthy := by
  obtain equal | ⟨one, two, left, right, ranks⟩ := eq_or_rank_of_identity scalar same
  · rw [equal]
    refine ⟨fun operator plain literal => ?_, rfl⟩
    obtain ⟨answer, found⟩ := Comparison.holds?_of_ne_matching plain (some other.value) literal
    exact ⟨answer, found, found⟩
  · rw [left, right]
    constructor
    · intro operator plain literal
      obtain ⟨answer, found⟩ :=
        Comparison.holds?_of_ne_matching plain (some (.number two)) literal
      exact ⟨answer, (Comparison.holds?_of_rank ranks operator literal).trans found, found⟩
    · simp only [Json.truthy, ranks]

/-- The whole number that rounds down to a double is no more above that double than the double
itself, and no less true. -/
theorem alike_to_operators_rounded :
    (part [0] (.number (.integer 9007199254740993))).value.isContainer = false ∧
      (part [0] (.number (.integer 9007199254740993))).identity =
        (part [1] (.number (.integer 9007199254740992))).identity ∧
      Comparison.greater.holds? (some (.number (.integer 9007199254740993)))
        (.number (Binary64.ofInt 9007199254740992)) = some false ∧
      (Json.number (.integer 9007199254740993)).truthy = true := by
  have same : (part [0] (.number (.integer 9007199254740993))).identity =
      (part [1] (.number (.integer 9007199254740992))).identity := by
    decide +kernel
  obtain ⟨operators, truth⟩ := alike_to_operators rfl same
  obtain ⟨answer, found, foundOther⟩ := operators .greater (by decide)
    (.number (Binary64.ofInt 9007199254740992))
  have below : Comparison.greater.holds? (some (.number (.integer 9007199254740992)))
      (.number (Binary64.ofInt 9007199254740992)) = some false := by
    decide +kernel
  refine ⟨rfl, same, ?_, truth.trans ?_⟩
  · exact found.trans (foundOther.symm.trans below)
  · decide +kernel

end Node

end JsonQuery
