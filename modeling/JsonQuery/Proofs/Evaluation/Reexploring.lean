import JsonQuery.Proofs.Evaluation.Concatenation
import JsonQuery.Proofs.Evaluation.Distinctness
import JsonQuery.Proofs.Evaluation.Exploration

/-! Exploring again what was explored. The second of two equal deep wildcards starts with the nodes
that the first one found and comes upon no others: what lies below one of them stood right behind it
when it was found, so that the nodes come up in the same order, and of several with one identity the
same one comes up first. -/

namespace JsonQuery

/-- A deep wildcard with the filter finds the node when it comes upon it. -/
def Filter.finds [PatternEngine] (filter : Filter) (node : Node) : Bool :=
  filter.accepts node.value && !node.value.isNull

namespace Node

variable {accepts : Node → Bool} {nodes : List Node}

/-- Of the nodes in some subtrees that pass a test, each is followed at once by those below it. -/
theorem filter_subtrees_children_isPrefix {node : Node} {after : List Node}
    (listed : node :: after <:+ (subtrees nodes).filter accepts) :
    (subtrees node.children).filter accepts <+: after := by
  obtain ⟨before, whole⟩ := listed
  obtain ⟨_, last, split, _, rest⟩ := List.filter_eq_append_iff.mp whole.symm
  obtain ⟨skipped, others, rfl, _, _, rfl⟩ := List.filter_eq_cons_iff.mp rest
  have behind : node :: others <:+ subtrees nodes := by
    rw [split]
    exact (List.suffix_append skipped _).trans (List.suffix_append _ _)
  exact (subtrees_children_isPrefix behind).filter accepts

theorem filter_subtrees_of_accepted (accepted : ∀ node ∈ nodes, accepts node = true) :
    (subtrees nodes).filter accepts =
      nodes.flatMap fun node => node :: (subtrees node.children).filter accepts := by
  rw [subtrees, List.filter_flatMap]
  refine List.flatMap_congr fun node member => ?_
  rw [subtree_eq, List.filter_cons_of_pos (accepted node member)]

/-- Where each node of a list is followed at once by those below it, to put them behind the first
occurrences of the list once more adds nothing and changes no order. -/
theorem firstOccurrences_flatMap {all : List Node} {below : Node → List Node}
    (followed : ∀ node after, node :: after <:+ all → below node <+: after) (seen : List Identity) :
    firstOccurrences seen ((firstOccurrences seen all).flatMap fun node => node :: below node) =
      firstOccurrences seen all := by
  induction all generalizing seen with
  | nil => rfl
  | cons node rest ih =>
    have later := ih fun other after listed =>
      followed other after (listed.trans (List.suffix_cons node rest))
    rw [firstOccurrences]
    by_cases repeated : node.identity ∈ seen
    · rw [if_pos repeated]
      exact later seen
    · obtain ⟨others, rfl⟩ := followed node rest (List.suffix_refl _)
      rw [if_neg repeated, List.flatMap_cons, List.cons_append, firstOccurrences, if_neg repeated,
        firstOccurrences_append_of_eq (later _)]

theorem firstOccurrences_subtrees_idem (accepts : Node → Bool) (nodes : List Node) :
    firstOccurrences [] ((subtrees (firstOccurrences [] ((subtrees nodes).filter accepts))).filter
        accepts) =
      firstOccurrences [] ((subtrees nodes).filter accepts) := by
  have accepted : ∀ node ∈ firstOccurrences [] ((subtrees nodes).filter accepts),
      accepts node = true := fun node found =>
    (List.mem_filter.mp ((firstOccurrences_sublist [] _).subset found)).2
  rw [filter_subtrees_of_accepted accepted]
  exact firstOccurrences_flatMap (fun _ _ => filter_subtrees_children_isPrefix) []

end Node

namespace Segment

variable [PatternEngine] {value : Json} {nodes : List Node}

theorem leadsTo_deepWildcard_eq (filter : Filter) (inside : ∀ node ∈ nodes, node.LiesIn value) :
    (deepWildcard (some filter)).leadsTo nodes =
      Node.firstOccurrences [] ((Node.subtrees nodes).filter filter.finds) := by
  rw [leadsTo_deepWildcard filter inside, Node.present, List.filter_filter]
  rfl

theorem leadsTo_deepWildcard_idem (filter : Filter) (parts : Node.DistinctParts value nodes) :
    (deepWildcard (some filter)).leadsTo ((deepWildcard (some filter)).leadsTo nodes) =
      (deepWildcard (some filter)).leadsTo nodes := by
  have found := (deepWildcard (some filter)).distinctParts_leadsTo parts
  rw [leadsTo_deepWildcard_eq filter found.inside, leadsTo_deepWildcard_eq filter parts.inside,
    Node.firstOccurrences_subtrees_idem]

end Segment

/-- A deep wildcard directly behind an equal one changes nothing: the same nodes are selected, in
the same order. -/
theorem Expression.explores_once [PatternEngine] (chain : Chain) (filter : Filter) (value : Json) :
    (Expression.chain (chain ++ [.deepWildcard (some filter)])).answer value =
      (Expression.chain (chain ++ [.deepWildcard (some filter),
        .deepWildcard (some filter)])).answer value := by
  have parts := chain.distinctParts_leadsTo (Node.distinctParts_root value)
  rw [answer_eq_selection, answer_eq_selection, selection, selection, Chain.leadsTo_append,
    Chain.leadsTo_append]
  exact congrArg Selection.nodes (Segment.leadsTo_deepWildcard_idem filter parts).symm

end JsonQuery
