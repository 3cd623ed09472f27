import JsonQuery.Query.Comparison
import JsonQuery.Query.Path

/-! Filters on items: that a path leads somewhere, or that what it leads to compares
with a literal. -/

namespace JsonQuery

/-- A condition on an item. -/
inductive Filter where
  | existence (path : Path)
  | comparison (operator : Comparison) (path : Path) (value : Literal)
deriving BEq

namespace Filter

def written : Filter → List Char
  | existence path => path.text.toList
  | comparison operator path value => path.text.toList ++ operator.written ++ value.written

/-- The order in which operators are looked for: the longer ones first. -/
def operators : List Comparison :=
  [.greaterOrEqual, .lessOrEqual, .equal, .greater, .less, .matching]

/-- Read a comparison with the given operator, which must split the text into
exactly two parts, neither of them blank. -/
def readComparison? (text : List Char) (operator : Comparison) : Option Filter :=
  match (Text.split operator.symbol.1 operator.symbol.2 text).map Text.trim with
  | [path, value] =>
    if path ≠ [] ∧ value ≠ [] then
      some (comparison operator ⟨String.ofList path⟩ (Literal.read value))
    else none
  | _ => none

/-- Read a filter: a comparison with the first operator that makes one, or else the
existence of the whole text as a path. -/
def read (text : List Char) : Filter :=
  (operators.findSome? (readComparison? text)).getD
    (existence ⟨String.ofList (Text.trim text)⟩)

end Filter

end JsonQuery
