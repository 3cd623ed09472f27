import JsonQuery.Proofs.Selection.Positions
import JsonQuery.Selection.Size
import Mathlib.Data.List.Flatten
import Mathlib.Data.List.Nodup
import Mathlib.Logic.Relation

/-! The subtree of a node lists the node and all that lies below it in document order: each node
before what lies below it, and children in their order, which for the members of an ordered
object is that of their keys. No node is listed twice. -/

namespace JsonQuery.Node

variable {value : Json} {nodes others : List Node} {node other : Node}

theorem sizeOf_value_le_totalSize (member : node ∈ nodes) : sizeOf node.value ≤ totalSize nodes := by
  induction nodes with
  | nil => cases member
  | cons first rest ih =>
    rw [totalSize_cons]
    rcases List.mem_cons.mp member with rfl | later
    · omega
    · have := ih later
      omega

/-- A node and all that lies below it, in document order. -/
def subtree (node : Node) : List Node :=
  node :: node.children.attach.flatMap fun child => subtree child.val
termination_by sizeOf node.value
decreasing_by
  exact Nat.lt_of_le_of_lt (sizeOf_value_le_totalSize child.property) node.totalSize_children_lt

def subtrees (nodes : List Node) : List Node := nodes.flatMap subtree

theorem subtree_eq (node : Node) : node.subtree = node :: subtrees node.children := by
  rw [subtree, subtrees]
  simp

theorem subtrees_cons (node : Node) (rest : List Node) :
    subtrees (node :: rest) = node.subtree ++ subtrees rest := rfl

theorem subtrees_singleton (node : Node) : subtrees [node] = node.subtree :=
  List.append_nil _

theorem subtrees_append (nodes others : List Node) :
    subtrees (nodes ++ others) = subtrees nodes ++ subtrees others :=
  List.flatMap_append

theorem mem_subtree_self (node : Node) : node ∈ node.subtree := by
  rw [subtree_eq]
  exact List.mem_cons_self

theorem mem_subtrees : other ∈ subtrees nodes ↔ ∃ node ∈ nodes, other ∈ node.subtree :=
  List.mem_flatMap

theorem sublist_subtrees (nodes : List Node) : nodes.Sublist (subtrees nodes) := by
  induction nodes with
  | nil => exact .slnil
  | cons node rest ih =>
    rw [subtrees_cons, subtree_eq]
    exact (ih.trans (List.sublist_append_right _ _)).cons_cons node

theorem subtrees_children_sublist (node : Node) : (subtrees node.children).Sublist node.subtree := by
  rw [subtree_eq]
  exact List.sublist_cons_self node _

/-- In the subtrees of some nodes, each node is followed at once by all that lies below it. -/
theorem subtrees_children_isPrefix {nodes after : List Node}
    (listed : node :: after <:+ subtrees nodes) :
    subtrees node.children <+: after := by
  match nodes with
  | [] => exact absurd (List.suffix_nil.mp listed) (List.cons_ne_nil _ _)
  | first :: rest =>
    -- The subtrees of the children and those of the other nodes are subtrees of smaller nodes.
    rw [subtrees_cons, subtree_eq, List.cons_append, ← subtrees_append] at listed
    rcases List.suffix_cons_iff.mp listed with same | later
    · obtain ⟨rfl, rfl⟩ := List.cons.inj same
      rw [subtrees_append]
      exact List.prefix_append _ _
    · exact subtrees_children_isPrefix later
termination_by totalSize nodes
decreasing_by
  have below := totalSize_children_lt first
  rw [totalSize_cons, totalSize_append]
  omega

/-- A node reaches itself and the nodes that its children reach. -/
abbrev Reaches : Node → Node → Prop :=
  Relation.ReflTransGen fun parent child => child ∈ parent.children

theorem mem_subtree : other ∈ node.subtree ↔ node.Reaches other := by
  constructor
  · intro member
    induction node using subtree.induct with
    | case1 node ih =>
      rw [subtree_eq, List.mem_cons] at member
      rcases member with rfl | below
      · exact .refl
      · obtain ⟨child, listed, member⟩ := mem_subtrees.mp below
        exact .head listed (ih ⟨child, listed⟩ member)
  · intro reaches
    induction reaches using Relation.ReflTransGen.head_induction_on with
    | refl => exact mem_subtree_self other
    | head listed _ ih =>
      rw [subtree_eq]
      exact .tail _ (mem_subtrees.mpr ⟨_, listed, ih⟩)

theorem LiesIn.of_mem_subtree (lies : node.LiesIn value) (member : other ∈ node.subtree) :
    other.LiesIn value := by
  have reaches := mem_subtree.mp member
  clear member
  induction reaches with
  | refl => exact lies
  | tail _ child ih => exact ih.child child

theorem position_of_mem_subtree {position : Position} {parent : Json}
    (member : other ∈ (part position parent).subtree) :
    ∃ below child, other = part (position ++ below) child := by
  have reaches := mem_subtree.mp member
  clear member
  induction reaches with
  | refl => exact ⟨[], parent, by rw [List.append_nil]⟩
  | tail _ listed ih =>
    obtain ⟨below, child, rfl⟩ := ih
    obtain ⟨index, grandchild, _, rfl⟩ := mem_children_part.mp listed
    exact ⟨below ++ [index], grandchild, by rw [List.append_assoc]⟩

theorem subtree_sublist_of_child (listed : other ∈ node.children) :
    other.subtree.Sublist node.subtree := by
  have alone : [other].Sublist node.children := List.singleton_sublist.mpr listed
  rw [← subtrees_singleton]
  exact (alone.flatMap _).trans node.subtrees_children_sublist

theorem subtree_sublist_of_mem (member : other ∈ node.subtree) :
    other.subtree.Sublist node.subtree := by
  have reaches := mem_subtree.mp member
  clear member
  induction reaches with
  | refl => exact .refl _
  | tail _ listed ih => exact (subtree_sublist_of_child listed).trans ih

theorem pair_sublist_children {first second : Node} {index later : Nat}
    (found : node.children[index]? = some first) (otherFound : node.children[later]? = some second)
    (before : index < later) : [first, second].Sublist node.children := by
  have pairs : node.children.Pairwise fun one two => [one, two].Sublist node.children :=
    List.pairwise_iff_forall_sublist.mpr id
  obtain ⟨inside, rfl⟩ := List.getElem?_eq_some_iff.mp found
  obtain ⟨otherInside, rfl⟩ := List.getElem?_eq_some_iff.mp otherFound
  exact List.pairwise_iff_getElem.mp pairs index later inside otherInside before

/-- In an ordered value the document order is that of keys: of two members of an object, all
that lies in the one with the lesser key comes before all that lies in the other. -/
theorem subtrees_in_key_order (ordered : value.Ordered) (held : node ∈ (root value).subtree)
    {first second : Node} {name otherName : String} (found : node.member? name = some first)
    (otherFound : node.member? otherName = some second) (less : name < otherName) :
    (first.subtree ++ second.subtree).Sublist (root value).subtree := by
  have lies : node.LiesIn value := (liesIn_root value).of_mem_subtree held
  have valueOrdered : node.value.Ordered := by
    cases node with
    | part position parent => exact ordered.of_at? lies
    | verdict => cases lies
  obtain ⟨index, located, reached⟩ := Option.bind_eq_some_iff.mp found
  obtain ⟨later, otherLocated, otherReached⟩ := Option.bind_eq_some_iff.mp otherFound
  have before : index < later :=
    (valueOrdered.lt_iff (valueOrdered.memberIndex?_eq_some_iff.mp located)
      (valueOrdered.memberIndex?_eq_some_iff.mp otherLocated)).mp less
  have both := (pair_sublist_children reached otherReached before).flatMap subtree
  rw [List.flatMap_cons, List.flatMap_singleton] at both
  exact (both.trans node.subtrees_children_sublist).trans (subtree_sublist_of_mem held)

theorem not_mem_subtrees_children (node : Node) : node ∉ subtrees node.children := by
  intro member
  obtain ⟨child, listed, member⟩ := mem_subtrees.mp member
  cases node with
  | verdict truth => cases listed
  | part position parent =>
    obtain ⟨index, value, _, rfl⟩ := mem_children_part.mp listed
    obtain ⟨below, _, same⟩ := position_of_mem_subtree member
    have lengths := congrArg List.length (Node.part.inj same).1
    simp at lengths

theorem disjoint_subtree_of_children {child otherChild : Node} (listed : child ∈ node.children)
    (otherListed : otherChild ∈ node.children) (different : child.origin ≠ otherChild.origin) :
    List.Disjoint child.subtree otherChild.subtree := by
  intro shared member otherMember
  cases node with
  | verdict truth => cases listed
  | part position parent =>
    obtain ⟨index, value, _, rfl⟩ := mem_children_part.mp listed
    obtain ⟨otherIndex, otherValue, _, rfl⟩ := mem_children_part.mp otherListed
    obtain ⟨below, _, rfl⟩ := position_of_mem_subtree member
    obtain ⟨otherBelow, _, same⟩ := position_of_mem_subtree otherMember
    have positions := (Node.part.inj same).1
    simp only [List.append_assoc, List.append_cancel_left_eq, List.cons_append, List.nil_append,
      List.cons.injEq] at positions
    rw [positions.1] at different
    exact different rfl

theorem nodup_subtree (node : Node) : node.subtree.Nodup := by
  induction node using subtree.induct with
  | case1 node ih =>
    rw [subtree_eq, List.nodup_cons, subtrees, List.nodup_flatMap]
    refine ⟨node.not_mem_subtrees_children, fun child listed => ih ⟨child, listed⟩, ?_⟩
    exact node.distinct_children.imp_of_mem fun listed otherListed different =>
      disjoint_subtree_of_children listed otherListed different

end JsonQuery.Node
