import JsonQuery.Selection.Node

/-! The sizes of values, by which traversals are bounded: what lies below a value is
smaller than the value, also when it is taken together. -/

namespace JsonQuery

namespace Json

/-- The sizes of some values taken together. -/
noncomputable def totalSize : List Json → Nat
  | [] => 0
  | value :: rest => sizeOf value + totalSize rest

theorem totalSize_append (left right : List Json) :
    totalSize (left ++ right) = totalSize left + totalSize right := by
  induction left with
  | nil => simp [totalSize]
  | cons value rest ih => simp [totalSize, ih, Nat.add_assoc]

theorem totalSize_le (items : List Json) : totalSize items ≤ sizeOf items := by
  induction items with
  | nil => simp [totalSize]
  | cons item rest ih =>
    simp only [totalSize, List.cons.sizeOf_spec]
    omega

theorem totalSize_members_le (members : List (String × Json)) :
    totalSize (members.map (·.2)) ≤ sizeOf members := by
  induction members with
  | nil => simp [totalSize]
  | cons member rest ih =>
    obtain ⟨name, value⟩ := member
    simp only [List.map_cons, totalSize, List.cons.sizeOf_spec, Prod.mk.sizeOf_spec]
    omega

theorem totalSize_children_lt (value : Json) : totalSize value.children < sizeOf value := by
  cases value with
  | array items =>
    have := totalSize_le items
    simp only [children, array.sizeOf_spec]
    omega
  | object members =>
    have := totalSize_members_le members
    simp only [children, object.sizeOf_spec]
    omega
  | _ =>
    simp only [children, totalSize]
    exact Nat.pos_of_ne_zero (by simp)

end Json

/-- The total size of the values of nodes, which bounds a traversal. -/
noncomputable def Node.totalSize (nodes : List Node) : Nat := Json.totalSize (nodes.map value)

theorem Node.totalSize_children_lt (node : Node) :
    totalSize node.children < sizeOf node.value := by
  cases node with
  | part position value =>
    unfold totalSize
    rw [map_value_children]
    exact value.totalSize_children_lt
  | verdict value => simp [totalSize, Json.totalSize, Node.children, Node.value]

theorem Node.totalSize_cons (node : Node) (rest : List Node) :
    totalSize (node :: rest) = sizeOf node.value + totalSize rest := rfl

theorem Node.totalSize_append (left right : List Node) :
    totalSize (left ++ right) = totalSize left + totalSize right := by
  unfold totalSize
  rw [List.map_append, Json.totalSize_append]

end JsonQuery
