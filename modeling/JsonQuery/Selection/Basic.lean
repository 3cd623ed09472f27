import JsonQuery.Selection.Node

/-! Selections, and their intersection and union. -/

namespace JsonQuery

/-- The result of an expression: a list of nodes, or a single node that stands for
itself. -/
inductive Selection where
  | nodes (list : List Node)
  | scalar (node : Node)

/-- The nodes whose identity is not among those seen, each identity once. -/
def Node.firstOccurrences (seen : List Identity) : List Node → List Node
  | [] => []
  | node :: rest =>
    if node.identity ∈ seen then firstOccurrences seen rest
    else node :: firstOccurrences (node.identity :: seen) rest

namespace Selection

def empty : Selection := nodes []

def verdict (value : Bool) : Selection := scalar (.verdict value)

/-- A list of nodes counts as true if it has any, a single node by its value. -/
def truthy : Selection → Bool
  | nodes list => !list.isEmpty
  | scalar node => node.value.truthy

/-- The nodes of a selection; a single node is a list of one. -/
def toList : Selection → List Node
  | nodes list => list
  | scalar node => [node]

/-- The nodes of the left side that have the identity of a node of the right side. -/
def intersect (left right : Selection) : Selection :=
  let members := right.toList.map Node.identity
  nodes (left.toList.filter fun node => decide (node.identity ∈ members))

/-- The nodes of both sides, the first of each identity. -/
def union (left right : Selection) : Selection :=
  nodes (Node.firstOccurrences [] (left.toList ++ right.toList))

end Selection

end JsonQuery
