import JsonQuery.Query.Filter
import JsonQuery.Query.Slice

/-! The expressions that select values: chains of segments, joined by negation,
conjunction and disjunction. -/

namespace JsonQuery

/-- One step of a chain, with the conditions on what it reaches. -/
inductive Segment where
  | property (name : String) (filter : Option Filter) (slice : Option Slice)
  | wildcard (filter : Option Filter)
  | deepWildcard (filter : Option Filter)
deriving BEq

namespace Segment

def filter? : Segment → Option Filter
  | property _ filter _ | wildcard filter | deepWildcard filter => filter

def withFilter (segment : Segment) (filter : Filter) : Segment :=
  match segment with
  | property name _ slice => property name filter slice
  | wildcard _ => wildcard filter
  | deepWildcard _ => deepWildcard filter

def bracketed (content : List Char) : List Char := '[' :: (content ++ [']'])

def filterText (filter : Option Filter) : List Char :=
  filter.elim [] fun filter => bracketed filter.written

def sliceText (slice : Option Slice) : List Char :=
  slice.elim [] fun slice => bracketed slice.written

/-- The text of a segment. -/
def written : Segment → List Char
  | property name filter slice => name.toList ++ filterText filter ++ sliceText slice
  | wildcard filter => '*' :: filterText filter
  | deepWildcard filter => '*' :: '*' :: filterText filter

end Segment

/-- A chain of segments, walked from left to right. -/
abbrev Chain := List Segment

/-- The text of a chain, a point between its segments. -/
def Chain.written (chain : Chain) : List Char :=
  ['.'].intercalate (chain.map Segment.written)

/-- How two expressions are joined. -/
inductive Connective where
  | both
  | either
deriving DecidableEq

def Connective.sign : Connective → Char
  | both => '&'
  | either => '|'

inductive Expression where
  | chain (segments : Chain)
  | negation (operand : Expression)
  | joined (connective : Connective) (left right : Expression)
deriving BEq

namespace Expression

/-- The text of an expression; joined operands stand between parentheses. -/
def written : Expression → List Char
  | chain segments => segments.written
  | negation operand => '!' :: operand.written
  | joined connective left right =>
    '(' :: (left.written ++ connective.sign :: right.written ++ [')'])

/-- The height of an expression: one for a chain, and one more than the highest
operand above it. -/
def height : Expression → Nat
  | chain _ => 1
  | negation operand => operand.height + 1
  | joined _ left right => max left.height right.height + 1

end Expression

end JsonQuery
