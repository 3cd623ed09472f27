import JsonQuery.Proofs.Evaluation.Remembering
import JsonQuery.Selector

/-! Selectors answer with the selections of their expressions, however often they were used
before, and know the patterns that were tested for these answers. -/

namespace JsonQuery

variable [PatternEngine]

namespace Selector

/-- The patterns of a selector are what reading their texts gives. -/
def Sound (selector : Selector) : Prop := selector.patterns.Sound

theorem sound_ofExpression (expression : Expression) : (ofExpression expression).Sound :=
  PatternTable.sound_empty

variable {selector : Selector}

theorem evaluates (sound : selector.Sound) (value : Json) :
    (selector.evaluate value).1 = selector.expression.selection value ∧
      (selector.evaluate value).2.Sound ∧
      ∀ text, text ∈ (selector.evaluate value).2.patterns.texts ↔
        text ∈ selector.patterns.texts ∨ text ∈ selector.expression.testedTexts value := by
  have whole : selector.expression.part? [] = some selector.expression := rfl
  have start : (Pass.start selector.patterns).Sound selector.expression fun _ => value :=
    Pass.sound_start sound
  obtain ⟨same, passSound, learned⟩ := Pass.evaluates_evaluate 0 whole _ start
  exact ⟨same, passSound.patterns, learned⟩

theorem selection_evaluate (sound : selector.Sound) (value : Json) :
    (selector.evaluate value).1 = selector.expression.selection value :=
  (evaluates sound value).1

theorem sound_evaluate (sound : selector.Sound) (value : Json) :
    (selector.evaluate value).2.Sound :=
  (evaluates sound value).2.1

end Selector

/-- The selection of an expression on a value, by a selector that is used for the first time. -/
def Expression.answer (expression : Expression) (value : Json) : Selection :=
  ((Selector.ofExpression expression).evaluate value).1

theorem Expression.answer_eq_selection (expression : Expression) (value : Json) :
    expression.answer value = expression.selection value :=
  Selector.selection_evaluate (Selector.sound_ofExpression expression) value

end JsonQuery
