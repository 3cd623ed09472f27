import JsonQuery.Evaluation.Pass

/-! What filters, chains and expressions mean, without tables of patterns and without
remembered selections: a filter is a test of items, a chain leads from nodes to nodes, and
an expression has a selection on every value. Beside the meaning of each stand the texts of
the patterns that are tested on the way to it. -/

namespace JsonQuery

variable [PatternEngine]

namespace Filter

/-- The text of the pattern that items are tested against, if the filter has one. -/
def patternText? : Filter → Option String
  | comparison .matching _ value => some value.patternText
  | _ => none

/-- An item passes the filter. A text that is no pattern matches nothing. -/
def accepts (filter : Filter) (item : Json) : Bool :=
  match filter with
  | existence path => (path.resolve? item).isSome
  | comparison operator path value =>
    let resolved := path.resolve? item
    (operator.holds? resolved value).getD
      ((PatternEngine.matcher? value.patternText).any (· (Resolved.toText resolved)))

theorem accepts_matching (path : Path) (value : Literal) (item : Json) :
    (comparison .matching path value).accepts item =
      (PatternEngine.matcher? value.patternText).any
        (· (Resolved.toText (path.resolve? item))) := rfl

/-- The nodes that pass a filter, or all of them without one. -/
def among (filter : Option Filter) (nodes : List Node) : List Node :=
  filter.elim nodes fun filter => nodes.filter (filter.accepts ·.value)

theorem among_some (filter : Filter) (nodes : List Node) :
    among (some filter) nodes = nodes.filter (filter.accepts ·.value) := rfl

/-- The pattern text of a filter that is tested on some nodes. Without a node there is
no test. -/
def textsOn (filter : Option Filter) (nodes : List Node) : List String :=
  if nodes.isEmpty then [] else (filter.bind patternText?).toList

end Filter

namespace Node

/-- The elements of an array. Other nodes have none. -/
def elements (node : Node) : List Node :=
  match node.value with
  | .array _ => node.children
  | _ => []

/-- The pending nodes and all that lies below them, each node before what lies below it,
without nulls and with each container once. -/
def visits (visited : List Identity) (pending : List Node) : List Node :=
  match pending with
  | [] => []
  | node :: rest =>
    match node.value with
    | .null => visits visited rest
    | value =>
      if value.isContainer ∧ node.identity ∈ visited then visits visited rest
      else
        node :: visits (if value.isContainer then node.identity :: visited else visited)
          (node.children ++ rest)
termination_by totalSize pending
decreasing_by
  all_goals
    have below := totalSize_children_lt node
    simp only [totalSize_cons, totalSize_append]
    omega

end Node

namespace Segment

def candidates (segment : Segment) (nodes : List Node) : List Node :=
  match segment with
  | property name _ _ => (nodes.filterMap (·.member? name)).flatMap Node.elements
  | wildcard _ => nodes.flatMap Node.children
  | deepWildcard _ => Node.visits [] nodes

/-- What a property leads to from its member. -/
def expand (filter : Option Filter) (slice : Option Slice) (member : Node) : List Node :=
  match member.value, filter with
  | .array _, _ =>
    let elements := Filter.among filter member.elements
    slice.elim elements (·.apply elements)
  | _, some _ => []
  | _, none => [member]

def leadsTo (segment : Segment) (nodes : List Node) : List Node :=
  match segment with
  | property name filter slice => (nodes.filterMap (·.member? name)).flatMap (expand filter slice)
  | wildcard filter => Filter.among filter (nodes.flatMap Node.children)
  | deepWildcard none => []
  | deepWildcard (some filter) =>
    Node.firstOccurrences [] (Filter.among (some filter) (Node.visits [] nodes))

theorem leadsTo_property_of_absent {name : String} {node : Node} (absent : node.member? name = none)
    (filter : Option Filter) (slice : Option Slice) (rest : List Node) :
    (property name filter slice).leadsTo (node :: rest) =
      (property name filter slice).leadsTo rest := by
  simp [leadsTo, absent]

theorem leadsTo_property_of_member {name : String} {node member : Node}
    (found : node.member? name = some member) (filter : Option Filter) (slice : Option Slice)
    (rest : List Node) :
    (property name filter slice).leadsTo (node :: rest) =
      expand filter slice member ++ (property name filter slice).leadsTo rest := by
  simp [leadsTo, found]

/-- The pattern text that a segment tests candidates against. -/
def testedTexts (segment : Segment) (nodes : List Node) : List String :=
  Filter.textsOn segment.filter? (segment.candidates nodes)

end Segment

namespace Chain

def leadsTo : Chain → List Node → List Node
  | [], nodes => nodes
  | segment :: rest, nodes => leadsTo rest (segment.leadsTo nodes)

/-- The texts of the patterns that are tested along a chain. -/
def testedTexts : Chain → List Node → List String
  | [], _ => []
  | segment :: rest, nodes => segment.testedTexts nodes ++ testedTexts rest (segment.leadsTo nodes)

end Chain

namespace Connective

/-- The left side leaves the result open: a false left side that of a disjunction, a true
one that of a conjunction. -/
def isOpen (connective : Connective) (left : Selection) : Bool :=
  match connective with
  | both => left.truthy
  | either => !left.truthy

/-- What two selections have in common, or what they have together. A left side that
decides the result is the result of a disjunction and empties a conjunction. -/
def join (connective : Connective) (left right : Selection) : Selection :=
  match connective with
  | both => if left.truthy then left.intersect right else .empty
  | either => if left.truthy then left else left.union right

end Connective

namespace Expression

/-- The selection of an expression on a value. -/
def selection (value : Json) : Expression → Selection
  | chain segments => .nodes (segments.leadsTo [Node.root value])
  | negation operand => .verdict !(operand.selection value).truthy
  | joined connective left right => connective.join (left.selection value) (right.selection value)

/-- The texts of the patterns that are tested for the selection on a value. The right side
of a connective is not looked at if the left side decides. -/
def testedTexts (value : Json) : Expression → List String
  | chain segments => segments.testedTexts [Node.root value]
  | negation operand => operand.testedTexts value
  | joined connective left right =>
    left.testedTexts value ++
      if connective.isOpen (left.selection value) then right.testedTexts value else []

end Expression

end JsonQuery
