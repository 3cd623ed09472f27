import JsonQuery.Query.Comparison
import JsonQuery.Proofs.Binary64.Comparing

/-! How equality and the operators of order agree. Equality tells kinds apart and order does not,
but sides that are equal have one place in the order. -/

namespace JsonQuery

theorem Binary64.ofBool_ne_nan (value : Bool) : ofBool value ≠ nan :=
  ofInt_ne_nan _

theorem Resolved.toNumber_some (value : Json) : toNumber (some value) = value.toNumber := by
  rw [toNumber, Option.elim_some]

namespace Comparison

variable {left : Resolved} {right : Literal}

/-- The operator is decided without a pattern, and it holds. -/
def Holds (operator : Comparison) (left : Resolved) (right : Literal) : Prop :=
  operator.holds? left right = some true

/-- Both sides are strings, which are ordered as texts. -/
inductive BothStrings : Resolved → Literal → Prop where
  | intro (one other : String) : BothStrings (some (.string one)) (.string other)

/-- A side stands for no number, and the sides are not both strings. -/
def Unordered (left : Resolved) (right : Literal) : Prop :=
  ¬ BothStrings left right ∧ (Resolved.toNumber left = .nan ∨ right.toNumber = .nan)

theorem holds_equal_iff : equal.Holds left right ↔ strictlyEqual left right = true := by
  simp [Holds, holds?]

theorem holds_greater_iff : greater.Holds left right ↔ relate left right = some .gt := by
  simp [Holds, holds?]

theorem holds_less_iff : less.Holds left right ↔ relate left right = some .lt := by
  simp [Holds, holds?]

theorem holds_greaterOrEqual_iff : greaterOrEqual.Holds left right ↔
    relate left right = some .gt ∨ relate left right = some .eq := by
  rw [Holds, holds?]
  cases relate left right with
  | none => simp
  | some order => cases order <;> simp

theorem holds_lessOrEqual_iff : lessOrEqual.Holds left right ↔
    relate left right = some .lt ∨ relate left right = some .eq := by
  rw [Holds, holds?]
  cases relate left right with
  | none => simp
  | some order => cases order <;> simp

theorem relate_eq_compare? (mixed : ¬ BothStrings left right) :
    relate left right = (Resolved.toNumber left).compare? right.toNumber := by
  unfold relate
  split
  · exact absurd (.intro _ _) mixed
  · rfl

/-- Strings always have an order, and other sides have one unless one of them is no number. -/
theorem relate_eq_none_iff : relate left right = none ↔ Unordered left right := by
  unfold Unordered
  by_cases strings : BothStrings left right
  · simp only [strings, not_true_eq_false, false_and, iff_false]
    cases strings
    simp [relate]
  · rw [relate_eq_compare? strings, Binary64.compare?_eq_none_iff]
    simp [strings]

/-- Equal sides have one place in the order, except that nothing has no place in it. -/
theorem relate_of_strictlyEqual (same : strictlyEqual left right = true)
    (found : ¬ (left = none ∧ right = .undefined)) : relate left right = some .eq := by
  unfold strictlyEqual at same
  split at same
  case h_1 => exact absurd ⟨rfl, rfl⟩ found
  case h_2 =>
    have mixed : ¬ BothStrings (some .null) .null := by rintro ⟨⟩
    rw [relate_eq_compare? mixed, Resolved.toNumber_some, Json.toNumber, Literal.toNumber]
    exact Binary64.compare?_self (by simp)
  case h_3 one other =>
    have mixed : ¬ BothStrings (some (.bool one)) (.bool other) := by rintro ⟨⟩
    rw [relate_eq_compare? mixed, Resolved.toNumber_some, Json.toNumber, Literal.toNumber,
      eq_of_beq same]
    exact Binary64.compare?_self (Binary64.ofBool_ne_nan other)
  case h_4 one other =>
    have mixed : ¬ BothStrings (some (.number one)) (.number other) := by rintro ⟨⟩
    rw [relate_eq_compare? mixed, Resolved.toNumber_some, Json.toNumber, Literal.toNumber]
    exact Binary64.beq_iff_compare?.mp same
  case h_5 one other =>
    obtain rfl := eq_of_beq same
    simp [relate]
  case h_6 => cases same

/-- At most one of the strict operators and of both others together holds. Each of the others holds
exactly if its strict operator does or if both of them do. All four fail where a side is no number
and the sides are not both strings, and otherwise there is an order. Equal sides are in order both
ways and strictly in neither, except that a path that leads nowhere equals the literal for it. -/
theorem equality_agrees_with_order (left : Resolved) (right : Literal) :
    ¬ (greater.Holds left right ∧ less.Holds left right) ∧
      ¬ (greater.Holds left right ∧
        greaterOrEqual.Holds left right ∧ lessOrEqual.Holds left right) ∧
      ¬ (less.Holds left right ∧
        greaterOrEqual.Holds left right ∧ lessOrEqual.Holds left right) ∧
      (greaterOrEqual.Holds left right ↔ greater.Holds left right ∨
        greaterOrEqual.Holds left right ∧ lessOrEqual.Holds left right) ∧
      (lessOrEqual.Holds left right ↔ less.Holds left right ∨
        greaterOrEqual.Holds left right ∧ lessOrEqual.Holds left right) ∧
      (Unordered left right → ∀ operator ∈ [greater, less, greaterOrEqual, lessOrEqual],
        operator.holds? left right = some false) ∧
      (¬ Unordered left right →
        greaterOrEqual.Holds left right ∨ lessOrEqual.Holds left right) ∧
      (¬ (left = none ∧ right = .undefined) → equal.Holds left right →
        greaterOrEqual.Holds left right ∧ lessOrEqual.Holds left right ∧
          ¬ greater.Holds left right ∧ ¬ less.Holds left right) := by
  rw [← relate_eq_none_iff]
  simp only [holds_equal_iff, holds_greater_iff, holds_less_iff, holds_greaterOrEqual_iff,
    holds_lessOrEqual_iff]
  refine ⟨?_, ?_, ?_, ?_, ?_, fun unordered => ?_, fun ordered => ?_, fun found same => ?_⟩
  · grind
  · grind
  · grind
  · grind
  · grind
  · simp [holds?, unordered]
  · obtain ⟨order, related⟩ := Option.ne_none_iff_exists'.mp ordered
    cases order <;> simp [related]
  · simp [relate_of_strictlyEqual same found]

/-- A whole number equals the double that it rounds to, an array has no order beside a boolean, and
two strings have one. -/
theorem equality_agrees_with_order_rounded :
    equal.Holds (some (.number (.integer 9007199254740993)))
        (.number (Binary64.ofInt 9007199254740992)) ∧
      greaterOrEqual.Holds (some (.number (.integer 9007199254740993)))
        (.number (Binary64.ofInt 9007199254740992)) ∧
      Unordered (some (.array [])) (.bool true) ∧
      less.holds? (some (.array [])) (.bool true) = some false ∧
      ¬ Unordered (some (.string "9")) (.string "10") ∧
      (greaterOrEqual.Holds (some (.string "9")) (.string "10") ∨
        lessOrEqual.Holds (some (.string "9")) (.string "10")) := by
  have same : equal.Holds (some (.number (.integer 9007199254740993)))
      (.number (Binary64.ofInt 9007199254740992)) := by
    unfold Holds
    decide +kernel
  have unordered : Unordered (some (.array [])) (.bool true) := ⟨by rintro ⟨⟩, .inl rfl⟩
  have ordered : ¬ Unordered (some (.string "9")) (.string "10") := fun other =>
    other.1 (.intro "9" "10")
  obtain ⟨_, _, _, _, _, _, _, equality⟩ := equality_agrees_with_order
    (some (.number (.integer 9007199254740993))) (.number (Binary64.ofInt 9007199254740992))
  obtain ⟨_, _, _, _, _, none, _⟩ := equality_agrees_with_order (some (.array [])) (.bool true)
  obtain ⟨_, _, _, _, _, _, some, _⟩ := equality_agrees_with_order
    (some (.string "9")) (.string "10")
  exact ⟨same, (equality (by simp) same).1, unordered, none unordered less (by simp), ordered,
    some ordered⟩

end Comparison

end JsonQuery
