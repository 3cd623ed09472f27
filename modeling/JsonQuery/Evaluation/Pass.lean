import JsonQuery.Evaluation.Walk
import JsonQuery.Selection.Basic
import Std.Data.HashMap

/-! Evaluating an expression. The right side of a connective is evaluated only if the
left side leaves the result open. A pass remembers the selection of each part of the
expression on each input, so that none is evaluated twice. -/

namespace JsonQuery

/-- A step from an expression to one of its operands. -/
inductive Branch where
  | operand
  | left
  | right
deriving DecidableEq, Hashable

/-- Where a part lies in an expression; the last step comes first. -/
abbrev Place := List Branch

/-- A value to be queried, with a label that tells it from other inputs. -/
structure Input where
  label : Nat
  value : Json

/-- The patterns compiled and the selections remembered so far. -/
structure Pass where
  patterns : PatternTable
  memo : Std.HashMap (Place × Nat) Selection

abbrev Passing := StateM Pass

namespace Pass

/-- A pass that remembers no selections. -/
def start (patterns : PatternTable) : Pass := ⟨patterns, ∅⟩

def compiling {α : Type} (run : Compiling α) : Passing α := do
  let pass ← get
  let (result, patterns) := run pass.patterns
  set { pass with patterns }
  return result

def remember (place : Place) (label : Nat) (selection : Selection) : Passing Unit :=
  modify fun pass => { pass with memo := pass.memo.insert (place, label) selection }

/-- The selection of the part of an expression that lies at a place, on an input. -/
def evaluate [PatternEngine] (input : Input) (place : Place) (expression : Expression) :
    Passing Selection := do
  match (← get).memo[(place, input.label)]? with
  | some held => return held
  | none =>
    let selection ← match expression with
      | .chain segments => do
        pure (Selection.nodes (← compiling (segments.walk [Node.root input.value])))
      | .negation operand => do
        let inner ← evaluate input (.operand :: place) operand
        pure (Selection.verdict !inner.truthy)
      | .joined .both left right => do
        let first ← evaluate input (.left :: place) left
        if first.truthy then
          pure (first.intersect (← evaluate input (.right :: place) right))
        else pure Selection.empty
      | .joined .either left right => do
        let first ← evaluate input (.left :: place) left
        if first.truthy then pure first
        else pure (first.union (← evaluate input (.right :: place) right))
    remember place input.label selection
    return selection

end Pass

end JsonQuery
