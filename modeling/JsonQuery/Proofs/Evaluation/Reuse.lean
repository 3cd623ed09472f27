import JsonQuery.Proofs.Evaluation.Answer
import Mathlib.Data.Finset.Card

/-! Selectors that are used again and again, and copied, answer as new ones do. How many
patterns one has compiled follows from the values that it was evaluated on. -/

namespace JsonQuery

variable [PatternEngine]

/-- A step in the use of some selectors: one of them is evaluated, or a copy of it is added
to them. -/
inductive SelectorUse where
  | evaluate (index : Nat) (value : Json)
  | copy (index : Nat)

/-- What a step answers: the selection and the number of patterns compiled so far. -/
inductive SelectorAnswer where
  | missing
  | selected (selection : Selection) (patternCount : Nat)
  | copied (patternCount : Nat)

/-- The texts of all patterns that are tested when an expression is evaluated on the values
of a history. -/
def Expression.textsAlong (expression : Expression) (history : List Json) : Finset String :=
  (history.flatMap (expression.testedTexts ·)).toFinset

namespace SelectorUse

/-- Use what a list has at an index, if there is anything. -/
def useAt {α : Type} (index : Nat) (use : α → StateM (List α) SelectorAnswer) :
    StateM (List α) SelectorAnswer := do
  match (← get)[index]? with
  | none => return .missing
  | some item => use item

def perform : SelectorUse → StateM (List Selector) SelectorAnswer
  | evaluate index value => useAt index fun selector => do
    let (selection, selector) := selector.evaluate value
    modify (·.set index selector)
    return .selected selection selector.patternCount
  | copy index => useAt index fun selector => do
    modify (· ++ [selector.copy])
    return .copied selector.copy.patternCount

/-- Take a step with nothing but the histories of selectors of one expression: the values
that each was evaluated on since it was made or copied from another one. -/
def performOnHistories (expression : Expression) :
    SelectorUse → StateM (List (List Json)) SelectorAnswer
  | evaluate index value => useAt index fun history => do
    let history := history ++ [value]
    modify (·.set index history)
    return .selected (expression.answer value) (expression.textsAlong history).card
  | copy index => useAt index fun _ => do
    modify (· ++ [[]])
    return .copied 0

end SelectorUse

/-- A selector of an expression that has been evaluated on the values of a history. -/
structure UsedOn (expression : Expression) (selector : Selector) (history : List Json) : Prop where
  same : selector.expression = expression
  sound : selector.Sound
  texts : ∀ text, text ∈ selector.patterns.texts ↔ text ∈ expression.textsAlong history

namespace UsedOn

variable {expression : Expression} {selector : Selector} {history : List Json}

theorem new (expression : Expression) : UsedOn expression (Selector.ofExpression expression) [] where
  same := rfl
  sound := Selector.sound_ofExpression expression
  texts text := by simp [Selector.ofExpression, PatternTable.empty, PatternTable.texts,
    Expression.textsAlong]

theorem copied (used : UsedOn expression selector history) : UsedOn expression selector.copy [] := by
  rw [Selector.copy, used.same]
  exact new expression

theorem selection_eq (used : UsedOn expression selector history) (value : Json) :
    (selector.evaluate value).1 = expression.answer value := by
  rw [Selector.selection_evaluate used.sound, used.same, Expression.answer_eq_selection]

theorem evaluated (used : UsedOn expression selector history) (value : Json) :
    UsedOn expression (selector.evaluate value).2 (history ++ [value]) where
  same := used.same
  sound := Selector.sound_evaluate used.sound value
  texts text := by
    rw [(Selector.evaluates used.sound value).2.2, used.texts, used.same]
    simp [Expression.textsAlong]

/-- Every text is in the table once, so that they are counted by its size. -/
theorem patternCount_eq (used : UsedOn expression selector history) :
    selector.patternCount = (expression.textsAlong history).card := by
  have same : selector.patterns.texts.toFinset = expression.textsAlong history :=
    Finset.ext fun text => List.mem_toFinset.trans (used.texts text)
  rw [← same, List.toFinset_card_of_nodup used.sound.distinct]
  exact selector.patterns.size_eq_length_texts

end UsedOn

/-- Some selectors of one expression, each with its history. -/
abbrev Recorded (expression : Expression) : List Selector → List (List Json) → Prop :=
  List.Forall₂ (UsedOn expression)

namespace Recorded

variable {expression : Expression} {selectors : List Selector} {histories : List (List Json)}

theorem found (recorded : Recorded expression selectors histories) (index : Nat) :
    (selectors[index]? = none ∧ histories[index]? = none) ∨
      ∃ selector history, selectors[index]? = some selector ∧
        histories[index]? = some history ∧ UsedOn expression selector history := by
  induction recorded generalizing index with
  | nil => exact .inl ⟨rfl, rfl⟩
  | cons used rest ih =>
    cases index with
    | zero => exact .inr ⟨_, _, rfl, rfl, used⟩
    | succ index => exact ih index

theorem replaced (recorded : Recorded expression selectors histories) {selector : Selector}
    {history : List Json} (used : UsedOn expression selector history) (index : Nat) :
    Recorded expression (selectors.set index selector) (histories.set index history) := by
  induction recorded generalizing index with
  | nil => exact .nil
  | cons first rest ih =>
    cases index with
    | zero => exact .cons used rest
    | succ index => exact .cons first (ih index)

theorem usedAt (recorded : Recorded expression selectors histories) (index : Nat)
    {use : Selector → StateM (List Selector) SelectorAnswer}
    {record : List Json → StateM (List (List Json)) SelectorAnswer}
    (step : ∀ selector history, UsedOn expression selector history →
      ((use selector).run selectors).1 = ((record history).run histories).1 ∧
        Recorded expression ((use selector).run selectors).2 ((record history).run histories).2) :
    ((SelectorUse.useAt index use).run selectors).1 =
        ((SelectorUse.useAt index record).run histories).1 ∧
      Recorded expression ((SelectorUse.useAt index use).run selectors).2
        ((SelectorUse.useAt index record).run histories).2 := by
  simp only [SelectorUse.useAt, StateT.run_bind, StateT.run_get, pure_bind]
  rcases recorded.found index with ⟨missing, absent⟩ | ⟨selector, history, held, past, used⟩
  · rw [missing, absent]
    exact ⟨rfl, recorded⟩
  · rw [held, past]
    exact step selector history used

theorem performed (recorded : Recorded expression selectors histories) (use : SelectorUse) :
    (use.perform.run selectors).1 = ((use.performOnHistories expression).run histories).1 ∧
      Recorded expression (use.perform.run selectors).2
        ((use.performOnHistories expression).run histories).2 := by
  cases use with
  | evaluate index value =>
    refine recorded.usedAt index fun selector history used => ?_
    have after := used.evaluated value
    refine ⟨?_, recorded.replaced after index⟩
    change SelectorAnswer.selected (selector.evaluate value).1
      (selector.evaluate value).2.patternCount = _
    rw [used.selection_eq, after.patternCount_eq]
    rfl
  | copy index =>
    refine recorded.usedAt index fun selector history used => ?_
    exact ⟨rfl, List.rel_append recorded (.cons used.copied .nil)⟩

theorem performedAll (recorded : Recorded expression selectors histories)
    (uses : List SelectorUse) :
    ((uses.mapM SelectorUse.perform).run selectors).1 =
      ((uses.mapM (SelectorUse.performOnHistories expression)).run histories).1 := by
  induction uses generalizing selectors histories with
  | nil => rfl
  | cons use rest ih =>
    obtain ⟨same, after⟩ := recorded.performed use
    rw [run_mapM_cons, run_mapM_cons]
    exact congrArg₂ List.cons same (ih after)

end Recorded

/-- Whatever is done with a new selector and with copies of it, every selection is that of a
new selector, and the number of compiled patterns is that of the distinct texts tested on the
values since the selector was made or copied. -/
theorem Selector.answers_as_new (expression : Expression) (uses : List SelectorUse) :
    ((uses.mapM SelectorUse.perform).run [Selector.ofExpression expression]).1 =
      ((uses.mapM (SelectorUse.performOnHistories expression)).run [[]]).1 :=
  Recorded.performedAll (.cons (UsedOn.new expression) .nil) uses

end JsonQuery
