import JsonQuery.Evaluation.Pass
import JsonQuery.Query.Parse

/-! Selectors: expressions together with the patterns that their evaluation has
compiled so far. -/

namespace JsonQuery

structure Selector where
  expression : Expression
  patterns : PatternTable

namespace Selector

/-- The selector of an expression, which has compiled no patterns. -/
def ofExpression (expression : Expression) : Selector := ⟨expression, .empty⟩

def read (text : String) : Except ParseError Selector :=
  (Expression.read text).map ofExpression

/-- A copy of the selector; it has compiled no patterns. -/
def copy (selector : Selector) : Selector := ofExpression selector.expression

def written (selector : Selector) : String := String.ofList selector.expression.written

def patternCount (selector : Selector) : Nat := selector.patterns.size

variable [PatternEngine]

/-- The selection on a value, and the selector afterwards. -/
def evaluate (selector : Selector) (value : Json) : Selection × Selector :=
  let (selection, pass) :=
    (Pass.evaluate ⟨0, value⟩ [] selector.expression).run (Pass.start selector.patterns)
  (selection, { selector with patterns := pass.patterns })

/-- The nodes selected on a value, and the selector afterwards. -/
def query (selector : Selector) (value : Json) : List Node × Selector :=
  let (selection, selector) := selector.evaluate value
  (selection.toList, selector)

end Selector

end JsonQuery
