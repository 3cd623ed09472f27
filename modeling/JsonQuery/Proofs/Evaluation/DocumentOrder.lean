import JsonQuery.Proofs.Evaluation.Distinctness
import JsonQuery.Proofs.Selection.Subtree
import JsonQuery.Settings

/-! Chains without deep wildcards select nodes none of which lies below another one. Without
negative steps they select them in document order. Both follow from what such a chain does to
the subtrees of nodes: it takes what it leads to from them, and leaves out the rest. -/

namespace JsonQuery

open Node (subtrees)

/-- A sense in which a list of nodes is taken from another one: every sublist is, and what is
taken from two lists is taken from both together. -/
structure Node.Taking (TakenFrom : List Node → List Node → Prop) : Prop where
  of_sublist : ∀ {some all}, some.Sublist all → TakenFrom some all
  trans : ∀ {first second third},
    TakenFrom first second → TakenFrom second third → TakenFrom first third
  append : ∀ {some all others rest},
    TakenFrom some all → TakenFrom others rest → TakenFrom (some ++ others) (all ++ rest)

theorem Node.taking_sublist : Node.Taking List.Sublist where
  of_sublist sublist := sublist
  trans := List.Sublist.trans
  append := List.Sublist.append

theorem Node.taking_subperm : Node.Taking List.Subperm where
  of_sublist := List.Sublist.subperm
  trans := List.Subperm.trans
  append := List.Subperm.append

/-- The subtrees of the members of a slice are taken from those of the whole list. -/
def Slice.Takes (TakenFrom : List Node → List Node → Prop) (slice : Slice) : Prop :=
  ∀ nodes, TakenFrom (subtrees (slice.apply nodes)) (subtrees nodes)

theorem Slice.takes_sublist {slice : Slice} (forwards : ¬ slice.signedStep < 0) :
    slice.Takes List.Sublist :=
  fun nodes => (apply_sublist forwards nodes).flatMap _

theorem Slice.takes_subperm (slice : Slice) : slice.Takes List.Subperm := by
  intro nodes
  obtain ⟨rearranged, same, sublist⟩ := slice.apply_subperm nodes
  exact (same.flatMap_right _).symm.subperm.trans (sublist.flatMap _).subperm

theorem Node.pairwise_not_reaches {nodes : List Node} (distinct : (subtrees nodes).Nodup) :
    nodes.Pairwise fun first second => ¬ first.Reaches second ∧ ¬ second.Reaches first := by
  refine (List.nodup_flatMap.mp distinct).2.imp fun {first second} disjoint => ?_
  constructor
  · intro reaches
    exact disjoint (mem_subtree.mpr reaches) second.mem_subtree_self
  · intro reaches
    exact disjoint first.mem_subtree_self (mem_subtree.mpr reaches)

section Taken

variable [PatternEngine] {TakenFrom : List Node → List Node → Prop}

namespace Segment

theorem subtrees_expand (taking : Node.Taking TakenFrom) (filter : Option Filter)
    {slice : Option Slice} (takes : ∀ held, slice = some held → held.Takes TakenFrom)
    (member : Node) : TakenFrom (subtrees (expand filter slice member)) member.subtree := by
  unfold expand
  cases shape : member.value with
  | array items =>
    have elements : (subtrees (Filter.among filter member.elements)).Sublist member.subtree := by
      rw [Node.elements_of_array shape]
      exact ((Filter.among_sublist filter _).flatMap _).trans member.subtrees_children_sublist
    cases slice with
    | none => exact taking.of_sublist elements
    | some held => exact taking.trans (takes held rfl _) (taking.of_sublist elements)
  | null | bool | number | string | object =>
    cases filter with
    | some filter => exact taking.of_sublist (List.nil_sublist _)
    | none =>
      dsimp only
      rw [Node.subtrees_singleton]
      exact taking.of_sublist (.refl _)

theorem subtrees_property (taking : Node.Taking TakenFrom) (name : String)
    (filter : Option Filter) {slice : Option Slice}
    (takes : ∀ held, slice = some held → held.Takes TakenFrom) (nodes : List Node) :
    TakenFrom (subtrees ((property name filter slice).leadsTo nodes)) (subtrees nodes) := by
  induction nodes with
  | nil => exact taking.of_sublist (.refl _)
  | cons node rest ih =>
    rw [Node.subtrees_cons]
    cases found : node.member? name with
    | none =>
      rw [leadsTo_property_of_absent found]
      exact taking.trans ih (taking.of_sublist (List.sublist_append_right _ _))
    | some member =>
      rw [leadsTo_property_of_member found, Node.subtrees_append]
      have below : member.subtree.Sublist node.subtree :=
        Node.subtree_sublist_of_child (Node.member?_eq_some found).1
      refine taking.append ?_ ih
      exact taking.trans (subtrees_expand taking filter takes member) (taking.of_sublist below)

theorem subtrees_wildcard (filter : Option Filter) (nodes : List Node) :
    (subtrees ((wildcard filter).leadsTo nodes)).Sublist (subtrees nodes) := by
  have children : (subtrees (nodes.flatMap Node.children)).Sublist (subtrees nodes) := by
    rw [subtrees, List.flatMap_assoc]
    exact List.Sublist.flatMap_right nodes fun node _ => node.subtrees_children_sublist
  exact ((Filter.among_sublist filter _).flatMap _).trans children

end Segment

theorem Chain.subtrees_leadsTo (taking : Node.Taking TakenFrom) {chain : Chain}
    (shallow : ∀ filter, Segment.deepWildcard filter ∉ chain)
    (takes : ∀ name filter slice, Segment.property name filter (some slice) ∈ chain →
      slice.Takes TakenFrom) (nodes : List Node) :
    TakenFrom (subtrees (chain.leadsTo nodes)) (subtrees nodes) := by
  induction chain generalizing nodes with
  | nil => exact taking.of_sublist (.refl _)
  | cons segment rest ih =>
    have later := ih (fun filter member => shallow filter (.tail _ member))
      (fun name filter slice member => takes name filter slice (.tail _ member))
      (segment.leadsTo nodes)
    refine taking.trans later ?_
    cases segment with
    | property name filter slice =>
      refine Segment.subtrees_property taking name filter (fun held same => ?_) nodes
      exact takes name filter held (same ▸ .head rest)
    | wildcard filter => exact taking.of_sublist (Segment.subtrees_wildcard filter nodes)
    | deepWildcard filter => exact absurd (.head rest) (shallow filter)

namespace Expression

/-- A chain without deep wildcards selects no node twice and none below another one. Unless it
has a slice with a negative step, it selects them in the order in which the subtree of the
whole value lists them. -/
theorem chain_in_document_order (chain : Chain)
    (shallow : ∀ filter, Segment.deepWildcard filter ∉ chain) (value : Json) :
    let nodes := ((Expression.chain chain).answer value).toList
    nodes.Pairwise (fun first second => ¬ first.Reaches second ∧ ¬ second.Reaches first) ∧
      ((∀ name filter slice, Segment.property name filter (some slice) ∈ chain →
          ¬ slice.signedStep < 0) →
        nodes.Sublist (Node.root value).subtree) := by
  intro nodes
  have selected : nodes = chain.leadsTo [Node.root value] := by
    simp only [nodes, answer_eq_selection]
    rfl
  rw [selected, ← Node.subtrees_singleton]
  constructor
  · have taken := Chain.subtrees_leadsTo Node.taking_subperm shallow
      (fun name filter slice member => slice.takes_subperm) [Node.root value]
    obtain ⟨rearranged, same, sublist⟩ := taken
    rw [Node.subtrees_singleton] at sublist
    have distinct := (Node.root value).nodup_subtree.sublist sublist
    exact Node.pairwise_not_reaches (same.nodup_iff.mp distinct)
  · intro forwards
    have taken := Chain.subtrees_leadsTo Node.taking_sublist shallow
      (fun name filter slice member => Slice.takes_sublist (forwards name filter slice member))
      [Node.root value]
    exact (Node.sublist_subtrees _).trans taken

end Expression

end Taken

/-- Some nodes lie two steps below the object that has them and one lies one step below it, for
only arrays are put in the place of a member. -/
theorem Expression.chain_in_document_order_spliced :
    let chain : Chain :=
      [.property "a" none none, .property "b" none (some ⟨none, none, some 2⟩)]
    let value : Json := .object [("a", .array [.object [("b", .array [.null, .null, .bool true])],
      .object [("b", .string "x")]])]
    (∀ filter, Segment.deepWildcard filter ∉ chain) ∧
      (∀ name filter slice, Segment.property name filter (some slice) ∈ chain →
        ¬ slice.signedStep < 0) ∧
      [Node.part [0, 0, 0, 0] .null, .part [0, 0, 0, 2] (.bool true),
        .part [0, 1, 0] (.string "x")].Sublist (Node.root value).subtree := by
  intro chain value
  have shallow : ∀ filter, Segment.deepWildcard filter ∉ chain := by simp [chain]
  have forwards : ∀ name filter slice, Segment.property name filter (some slice) ∈ chain →
      ¬ slice.signedStep < 0 := by
    simp only [chain, List.mem_cons, Segment.property.injEq, reduceCtorEq, List.not_mem_nil,
      Option.some.injEq, and_false, false_or, or_false]
    rintro name filter slice ⟨_, _, rfl⟩
    decide
  have selected : chain.leadsTo [Node.root value] =
      [.part [0, 0, 0, 0] .null, .part [0, 0, 0, 2] (.bool true), .part [0, 1, 0] (.string "x")] := by
    cbv
  have ordered := (chain_in_document_order chain shallow value).2 forwards
  rw [answer_eq_selection] at ordered
  exact ⟨shallow, forwards, selected ▸ ordered⟩

end JsonQuery
