import JsonQuery.Json.Basic

/-! Nodes: parts of the queried value, told apart by their position in it, and the
truth values that negations add. -/

namespace JsonQuery

def Json.isContainer : Json → Bool
  | array _ => true
  | object _ => true
  | _ => false

/-- A value counts as true unless it is null, false, zero or the empty string. -/
def Json.truthy : Json → Bool
  | null => false
  | bool value => value
  | number value => value.rank != 0
  | string text => text != ""
  | array _ => true
  | object _ => true

inductive Node where
  | part (position : Position) (value : Json)
  | verdict (value : Bool)

/-- What makes two members of a set the same: containers are the same only at one
position, other values if they have one kind and are equal, numbers as doubles. -/
inductive Identity where
  | container (position : Position)
  | null
  | bool (value : Bool)
  | number (rank : Int)
  | string (text : String)
deriving DecidableEq

namespace Node

def root (value : Json) : Node := part [] value

def value : Node → Json
  | part _ value => value
  | verdict value => .bool value

/-- The position of a node; the truth value of a negation has none. -/
def position? : Node → Option Position
  | part position _ => some position
  | verdict _ => none

def identityAt (position : Position) : Json → Identity
  | .null => .null
  | .bool value => .bool value
  | .number value => .number value.rank
  | .string text => .string text
  | .array _ => .container position
  | .object _ => .container position

def identity : Node → Identity
  | part position value => identityAt position value
  | verdict value => .bool value

/-- The elements or member values of a node, in order. -/
def children : Node → List Node
  | part position value =>
    value.children.zipIdx.map fun (child, index) => part (position ++ [index]) child
  | verdict _ => []

theorem map_value_children (position : Position) (value : Json) :
    (part position value).children.map Node.value = value.children := by
  simp only [children, List.map_map]
  exact List.zipIdx_map_fst 0 value.children

def member? (node : Node) (name : String) : Option Node := do
  let index ← node.value.memberIndex? name
  node.children[index]?

end Node

end JsonQuery
