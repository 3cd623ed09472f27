import JsonQuery.Json.Writer
import JsonQuery.Selection.Basic

/-! What can be asked of a list of selected nodes, apart from what lists offer. -/

namespace JsonQuery.NodeList

/-- A list has more nodes than were asked for. -/
structure AtMostOneError where
  count : Nat

def AtMostOneError.message (error : AtMostOneError) : String :=
  "nodelist expected to contain at most one entry, but instead contains " ++
    toString error.count ++ " entries"

/-- A list does not have the one node that was asked for. -/
inductive ExactlyOneError where
  | empty
  | moreThanOne (count : Nat)

def ExactlyOneError.message : ExactlyOneError → String
  | empty => "nodelist expected to contain one entry, but is empty"
  | moreThanOne count =>
    "nodelist expected to contain one entry, but instead contains " ++ toString count ++
      " entries"

def atMostOne : List Node → Except AtMostOneError (Option Node)
  | [] => .ok none
  | [node] => .ok (some node)
  | nodes => .error ⟨nodes.length⟩

def exactlyOne : List Node → Except ExactlyOneError Node
  | [] => .error .empty
  | [node] => .ok node
  | nodes => .error (.moreThanOne nodes.length)

/-- The compact JSON text of the values of a list. -/
def written (nodes : List Node) : String := (Json.array (nodes.map Node.value)).write

end JsonQuery.NodeList
