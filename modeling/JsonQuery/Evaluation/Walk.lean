import JsonQuery.Evaluation.PatternTable
import JsonQuery.Query.Expression
import JsonQuery.Selection.Size

/-! Walking a chain. Each segment takes a list of nodes to the nodes that it reaches
from them, and the walk ends early once there are none. -/

namespace JsonQuery

variable [PatternEngine]

def Filter.keep (filter : Filter) : List Node → Compiling (List Node)
  | [] => return []
  | node :: rest => do
    let passes ← filter.test node.value
    let kept ← filter.keep rest
    return if passes then node :: kept else kept

def Filter.keepIf (filter : Option Filter) (nodes : List Node) : Compiling (List Node) :=
  match filter with
  | some filter => filter.keep nodes
  | none => return nodes

namespace Segment

/-- What a property reaches from its member. The elements of an array are filtered,
sliced and put in its place; any other member is reached only without a filter. -/
def spread (filter : Option Filter) (slice : Option Slice) (member : Node) :
    Compiling (List Node) := do
  match member.value, filter with
  | .array _, _ =>
    let elements ← Filter.keepIf filter member.children
    return slice.elim elements (·.apply elements)
  | _, some _ => return []
  | _, none => return [member]

/-- What a property reaches from each of the nodes that have it. -/
def reachMembers (name : String) (filter : Option Filter) (slice : Option Slice) :
    List Node → Compiling (List Node)
  | [] => return []
  | node :: rest => do
    let reached ← match node.member? name with
      | some member => spread filter slice member
      | none => pure []
    return reached ++ (← reachMembers name filter slice rest)

/-- The nodes that pass a filter among the pending ones and all that lies below them,
each node before what lies below it. Nulls are left out. A container is visited once,
and of several nodes with one identity the first is taken. -/
def explore (filter : Filter) (visited taken : List Identity) (pending : List Node) :
    Compiling (List Node) := do
  match pending with
  | [] => return []
  | node :: rest =>
    match node.value with
    | .null => explore filter visited taken rest
    | value =>
      if value.isContainer ∧ node.identity ∈ visited then explore filter visited taken rest
      else
        let visited := if value.isContainer then node.identity :: visited else visited
        let passes ← filter.test value
        if passes ∧ node.identity ∉ taken then
          let found ← explore filter visited (node.identity :: taken) (node.children ++ rest)
          return node :: found
        else explore filter visited taken (node.children ++ rest)
termination_by Node.totalSize pending
decreasing_by
  all_goals
    have below := Node.totalSize_children_lt node
    simp only [Node.totalSize_cons, Node.totalSize_append]
    omega

/-- What a segment reaches from a list of nodes. A deep wildcard without a filter
reaches nothing. -/
def reach (segment : Segment) (nodes : List Node) : Compiling (List Node) :=
  match segment with
  | property name filter slice => reachMembers name filter slice nodes
  | wildcard filter => Filter.keepIf filter (nodes.flatMap Node.children)
  | deepWildcard none => return []
  | deepWildcard (some filter) => explore filter [] [] nodes

end Segment

def Chain.walk (chain : Chain) (nodes : List Node) : Compiling (List Node) := do
  match chain with
  | [] => return nodes
  | segment :: rest =>
    let reached ← segment.reach nodes
    if reached.isEmpty then return [] else Chain.walk rest reached

end JsonQuery
