import JsonQuery.Proofs.Selection.Joining

/-! The positions of nodes. A node is a part of the queried value if the value has it at the
position of the node. What lies below it is then a part as well, and nodes at different positions
have their children at different positions. -/

namespace JsonQuery

theorem Json.at?_concat {value parent child : Json} {position : Position} {index : Nat}
    (found : value.at? position = some parent) (step : parent.children[index]? = some child) :
    value.at? (position ++ [index]) = some child := by
  induction position generalizing value with
  | nil =>
    rw [Json.at?] at found
    obtain rfl := Option.some.inj found
    rw [List.nil_append, Json.at?, step, Option.bind_some, Json.at?]
  | cons first rest ih =>
    rw [Json.at?] at found
    obtain ⟨inner, reached, found⟩ := Option.bind_eq_some_iff.mp found
    rw [List.cons_append, Json.at?, reached, Option.bind_some, ih found]

namespace Node

/-- The value has the node at its position. -/
def LiesIn (value : Json) : Node → Prop
  | part position child => value.at? position = some child
  | verdict _ => False

/-- Where a node comes from: a position in the queried value, or a negation, which is known by
its truth value only. -/
inductive Origin where
  | position (position : Position)
  | verdict (value : Bool)

def origin : Node → Origin
  | part position _ => .position position
  | verdict value => .verdict value

/-- No two nodes come from one position, and no two negations gave one truth value. -/
abbrev Distinct (nodes : List Node) : Prop :=
  nodes.Pairwise fun first second => first.origin ≠ second.origin

variable {value : Json} {nodes : List Node} {node other : Node}

theorem liesIn_root (value : Json) : (root value).LiesIn value := by
  cases value <;> rfl

theorem mem_children_part {position : Position} {parent : Json} :
    node ∈ (part position parent).children ↔
      ∃ index child, parent.children[index]? = some child ∧
        node = part (position ++ [index]) child := by
  simp only [children, List.mem_map, Prod.exists, List.mem_zipIdx_iff_getElem?]
  constructor
  · rintro ⟨child, index, found, rfl⟩
    exact ⟨index, child, found, rfl⟩
  · rintro ⟨index, child, found, rfl⟩
    exact ⟨child, index, found, rfl⟩

theorem LiesIn.child (lies : node.LiesIn value) (member : other ∈ node.children) :
    other.LiesIn value := by
  cases node with
  | part position parent =>
    obtain ⟨index, child, step, rfl⟩ := mem_children_part.mp member
    exact Json.at?_concat lies step
  | verdict => cases lies

theorem LiesIn.eq_of_origin (lies : node.LiesIn value) (otherLies : other.LiesIn value)
    (same : node.origin = other.origin) : node = other := by
  cases node with
  | part position child =>
    cases other with
    | part otherPosition otherChild =>
      obtain rfl := Origin.position.inj same
      exact congrArg _ (Option.some.inj (lies.symm.trans otherLies))
    | verdict => cases otherLies
  | verdict => cases lies

/-- In one value a container is known by its identity. -/
theorem LiesIn.eq_of_identity (lies : node.LiesIn value) (otherLies : other.LiesIn value)
    (container : node.value.isContainer = true) (same : node.identity = other.identity) :
    node = other := by
  have origin : node.origin = other.origin := by
    cases node with
    | verdict => cases lies
    | part position child =>
      cases other with
      | verdict => cases otherLies
      | part otherPosition otherChild =>
        cases child <;> cases otherChild <;> cases container <;> cases same <;> rfl
  exact lies.eq_of_origin otherLies origin

/-- All nodes are parts of the value, at different positions. -/
structure DistinctParts (value : Json) (nodes : List Node) : Prop where
  inside : ∀ node ∈ nodes, node.LiesIn value
  distinct : Distinct nodes

theorem distinctParts_root (value : Json) : DistinctParts value [root value] where
  inside := List.forall_mem_singleton.mpr (liesIn_root value)
  distinct := List.pairwise_singleton _ _

theorem DistinctParts.sublist {some : List Node} (parts : DistinctParts value nodes)
    (sublist : some.Sublist nodes) : DistinctParts value some where
  inside node member := parts.inside node (sublist.subset member)
  distinct := parts.distinct.sublist sublist

theorem origin_child_ne {child otherChild : Node} (different : node.origin ≠ other.origin)
    (member : child ∈ node.children) (otherMember : otherChild ∈ other.children) :
    child.origin ≠ otherChild.origin := by
  cases node with
  | verdict => cases member
  | part position parent =>
    cases other with
    | verdict => cases otherMember
    | part otherPosition otherParent =>
      obtain ⟨index, child, _, rfl⟩ := mem_children_part.mp member
      obtain ⟨otherIndex, otherChild, _, rfl⟩ := mem_children_part.mp otherMember
      intro same
      have positions := (List.append_inj' (Origin.position.inj same) rfl).1
      exact different (congrArg Origin.position positions)

theorem distinct_children (node : Node) : Distinct node.children := by
  cases node with
  | verdict => exact .nil
  | part position parent =>
    refine List.pairwise_map.mpr (List.pairwise_iff_getElem.mpr ?_)
    intro first second firstInside secondInside before same
    simp only [List.getElem_zipIdx, origin, Origin.position.injEq] at same
    have indices := List.singleton_inj.mp (List.append_inj' same rfl).2
    omega

theorem DistinctParts.children (parts : DistinctParts value nodes) :
    DistinctParts value (nodes.flatMap Node.children) where
  inside child member := by
    obtain ⟨node, listed, member⟩ := List.mem_flatMap.mp member
    exact (parts.inside node listed).child member
  distinct := List.pairwise_flatMap.mpr ⟨fun node _ => node.distinct_children,
    parts.distinct.imp fun different child member otherChild otherMember =>
      origin_child_ne different member otherMember⟩

/-- Of nodes that are known by where they come from, the first of each identity come from
different places. -/
theorem distinct_firstOccurrences (known : ∀ node ∈ nodes, ∀ other ∈ nodes,
    node.origin = other.origin → node = other) : Distinct (firstOccurrences [] nodes) := by
  have kept := firstOccurrences_sublist [] nodes
  refine (pairwise_identity_firstOccurrences [] nodes).imp_of_mem ?_
  intro node other held otherHeld different same
  have equal := known node (kept.subset held) other (kept.subset otherHeld) same
  exact different (congrArg identity equal)

end Node

end JsonQuery
