import JsonQuery.Proofs.Evaluation.Meaning

/-! Joining selections. Of lists of nodes, a conjunction keeps those of the left list that
are also in the right one, and a disjunction is the left list unless it is empty. -/

namespace JsonQuery

namespace Node

/-- What is seen in a list is seen again in front of others, so that dropping it early makes no
difference. -/
theorem firstOccurrences_append_firstOccurrences {seen earlier : List Identity}
    (within : earlier ⊆ seen) (nodes others : List Node) :
    firstOccurrences seen (firstOccurrences earlier nodes ++ others) =
      firstOccurrences seen (nodes ++ others) := by
  induction nodes generalizing seen earlier with
  | nil => rfl
  | cons node rest ih =>
    rw [firstOccurrences, List.cons_append]
    by_cases repeated : node.identity ∈ earlier
    · rw [if_pos repeated, ih within, firstOccurrences, if_pos (within repeated)]
    · rw [if_neg repeated, List.cons_append, firstOccurrences, firstOccurrences]
      by_cases known : node.identity ∈ seen
      · rw [if_pos known, if_pos known, ih (List.cons_subset.mpr ⟨known, within⟩)]
      · rw [if_neg known, if_neg known, ih (List.cons_subset_cons _ within)]

theorem firstOccurrences_idem (seen : List Identity) (nodes : List Node) :
    firstOccurrences seen (firstOccurrences seen nodes) = firstOccurrences seen nodes := by
  have same := firstOccurrences_append_firstOccurrences (List.Subset.refl seen) nodes []
  rwa [List.append_nil, List.append_nil] at same

theorem firstOccurrences_eq_nil {nodes : List Node} :
    firstOccurrences [] nodes = [] ↔ nodes = [] := by
  cases nodes with
  | nil => simp [firstOccurrences]
  | cons node rest => simp [firstOccurrences]

theorem firstOccurrences_sublist (seen : List Identity) (nodes : List Node) :
    (firstOccurrences seen nodes).Sublist nodes := by
  induction nodes generalizing seen with
  | nil => exact .slnil
  | cons node rest ih =>
    rw [firstOccurrences]
    split
    · exact (ih seen).cons node
    · exact (ih _).cons_cons node

theorem identity_firstOccurrences_notMem {seen : List Identity} {nodes : List Node} :
    ∀ node ∈ firstOccurrences seen nodes, node.identity ∉ seen := by
  induction nodes generalizing seen with
  | nil => exact List.forall_mem_nil _
  | cons node rest ih =>
    rw [firstOccurrences]
    split
    · exact ih
    · rename_i fresh
      refine List.forall_mem_cons.mpr ⟨fresh, fun other member known => ?_⟩
      exact ih other member (List.mem_cons_of_mem _ known)

theorem pairwise_identity_firstOccurrences (seen : List Identity) (nodes : List Node) :
    (firstOccurrences seen nodes).Pairwise fun first second => first.identity ≠ second.identity := by
  induction nodes generalizing seen with
  | nil => exact .nil
  | cons node rest ih =>
    rw [firstOccurrences]
    split
    · exact ih seen
    · refine List.pairwise_cons.mpr ⟨fun other member same => ?_, ih _⟩
      exact identity_firstOccurrences_notMem other member (same ▸ List.mem_cons_self)

theorem mem_identity_firstOccurrences {seen : List Identity} {nodes : List Node} {node : Node}
    (member : node ∈ nodes) :
    node.identity ∈ seen ∨ ∃ kept ∈ firstOccurrences seen nodes, kept.identity = node.identity := by
  induction nodes generalizing seen with
  | nil => cases member
  | cons first rest ih =>
    rw [firstOccurrences]
    split
    · rename_i repeated
      rcases List.mem_cons.mp member with rfl | later
      · exact .inl repeated
      · exact ih later
    · rcases List.mem_cons.mp member with rfl | later
      · exact .inr ⟨node, List.mem_cons_self, rfl⟩
      · rcases ih later with known | ⟨kept, held, same⟩
        · rcases List.mem_cons.mp known with same | old
          · exact .inr ⟨first, List.mem_cons_self, same.symm⟩
          · exact .inl old
        · exact .inr ⟨kept, .tail _ held, same⟩

/-- Once the first of them is known, the others are left. -/
theorem firstOccurrences_of_eq_cons {seen : List Identity} {nodes rest : List Node} {node : Node}
    (found : firstOccurrences seen nodes = node :: rest) :
    firstOccurrences (node.identity :: seen) nodes = rest := by
  induction nodes with
  | nil => cases found
  | cons first others ih =>
    rw [firstOccurrences] at found
    by_cases repeated : first.identity ∈ seen
    · rw [if_pos repeated] at found
      rw [firstOccurrences, if_pos (.tail _ repeated)]
      exact ih found
    · rw [if_neg repeated] at found
      obtain ⟨rfl, later⟩ := List.cons.inj found
      rw [firstOccurrences, if_pos List.mem_cons_self]
      exact later

/-- A list whose first occurrences are those of another one may follow any front of the other. -/
theorem firstOccurrences_append_of_eq {seen : List Identity} {front nodes others : List Node}
    (same : firstOccurrences seen nodes = firstOccurrences seen (front ++ others)) :
    firstOccurrences seen (front ++ nodes) = firstOccurrences seen (front ++ others) := by
  induction front generalizing seen with
  | nil => exact same
  | cons node front ih =>
    rw [List.cons_append, firstOccurrences] at same
    rw [List.cons_append, List.cons_append, firstOccurrences, firstOccurrences]
    by_cases repeated : node.identity ∈ seen
    · rw [if_pos repeated] at same ⊢
      rw [if_pos repeated]
      exact ih same
    · rw [if_neg repeated] at same ⊢
      rw [if_neg repeated, ih (firstOccurrences_of_eq_cons same)]

/-- The nodes of a list that have the identity of a node of another list. -/
def common (nodes others : List Node) : List Node :=
  nodes.filter fun node => decide (node.identity ∈ others.map Node.identity)

/-- A list of nodes, or the first node of each identity of another list if it is empty. -/
def orElse (nodes others : List Node) : List Node :=
  if nodes.isEmpty then firstOccurrences [] others else nodes

theorem mem_identity_common {identity : Identity} {nodes others : List Node} :
    identity ∈ (common nodes others).map Node.identity ↔
      identity ∈ nodes.map Node.identity ∧ identity ∈ others.map Node.identity := by
  simp only [common, List.mem_map, List.mem_filter, decide_eq_true_eq]
  constructor
  · rintro ⟨node, ⟨member, shared⟩, rfl⟩
    exact ⟨⟨node, member, rfl⟩, shared⟩
  · rintro ⟨⟨node, member, rfl⟩, shared⟩
    exact ⟨node, ⟨member, shared⟩, rfl⟩

theorem common_self (nodes : List Node) : common nodes nodes = nodes :=
  List.filter_eq_self.mpr fun node member =>
    decide_eq_true (List.mem_map.mpr ⟨node, member, rfl⟩)

theorem common_assoc (first second third : List Node) :
    common (common first second) third = common first (common second third) := by
  rw [common, common, common, List.filter_filter]
  refine List.filter_congr fun node _ => ?_
  rw [Bool.eq_iff_iff, Bool.and_eq_true_iff, decide_eq_true_iff, decide_eq_true_iff,
    decide_eq_true_iff, mem_identity_common, and_comm]

theorem orElse_nil (others : List Node) : orElse [] others = firstOccurrences [] others := rfl

theorem orElse_of_ne_nil {nodes : List Node} (found : nodes ≠ []) (others : List Node) :
    orElse nodes others = nodes :=
  if_neg (by simpa using found)

theorem orElse_assoc (first second third : List Node) :
    orElse (orElse first second) third = orElse first (orElse second third) := by
  by_cases found : first = []
  · subst found
    rw [orElse_nil, orElse_nil]
    by_cases foundSecond : second = []
    · subst foundSecond
      rw [orElse_nil, firstOccurrences_idem]
      rfl
    · rw [orElse_of_ne_nil foundSecond, orElse_of_ne_nil]
      exact fun none => foundSecond (firstOccurrences_eq_nil.mp none)
  · rw [orElse_of_ne_nil found, orElse_of_ne_nil found, orElse_of_ne_nil found]

theorem orElse_self (nodes : List Node) : orElse nodes nodes = nodes := by
  by_cases found : nodes = []
  · subst found
    rfl
  · exact orElse_of_ne_nil found nodes

theorem common_orElse (nodes others : List Node) : common nodes (orElse nodes others) = nodes := by
  by_cases found : nodes = []
  · subst found
    rfl
  · rw [orElse_of_ne_nil found, common_self]

theorem orElse_common (nodes others : List Node) : orElse nodes (common nodes others) = nodes := by
  by_cases found : nodes = []
  · subst found
    rfl
  · exact orElse_of_ne_nil found _

end Node

theorem Selection.toList_ne_nil_of_truthy {selection : Selection} (truthy : selection.truthy = true) :
    selection.toList ≠ [] := by
  cases selection with
  | nodes list => simpa [Selection.truthy, toList] using truthy
  | scalar node => simp [toList]

theorem Selection.empty_of_falsy {list : List Node} (falsy : (nodes list).truthy = false) :
    nodes list = empty := by
  cases list with
  | nil => rfl
  | cons node rest => cases falsy

namespace Connective

theorem join_both_nodes (nodes others : List Node) :
    both.join (.nodes nodes) (.nodes others) = .nodes (Node.common nodes others) := by
  cases nodes with
  | nil => rfl
  | cons node rest => rfl

theorem join_either_nodes (nodes others : List Node) :
    either.join (.nodes nodes) (.nodes others) = .nodes (Node.orElse nodes others) := by
  cases nodes with
  | nil => rfl
  | cons node rest => rfl

/-- No single truth value comes from joining, unless it is the true left side of a disjunction:
what counts as false is empty. -/
theorem join_of_falsy {connective : Connective} {left right : Selection}
    (falsy : (connective.join left right).truthy = false) :
    connective.join left right = .empty := by
  cases connective with
  | both =>
    by_cases truthy : left.truthy = true
    · rw [join, if_pos truthy] at falsy ⊢
      exact Selection.empty_of_falsy falsy
    · rw [join, if_neg truthy]
  | either =>
    by_cases truthy : left.truthy = true
    · rw [join, if_pos truthy, truthy] at falsy
      cases falsy
    · rw [join, if_neg truthy] at falsy ⊢
      exact Selection.empty_of_falsy falsy

/-- A disjunction counts as true as soon as one side has a node. A single truth value is a
node as well when it is joined. -/
theorem truthy_join_either (left right : Selection) :
    (either.join left right).truthy = true ↔ left.toList ≠ [] ∨ right.toList ≠ [] := by
  unfold join
  cases truthy : left.truthy with
  | true => simp [truthy, Selection.toList_ne_nil_of_truthy truthy]
  | false =>
    have empty : (left.union right).truthy = true ↔
        Node.firstOccurrences [] (left.toList ++ right.toList) ≠ [] := by
      simp [Selection.union, Selection.truthy]
    simp only [Bool.false_eq_true, if_false]
    rw [empty, ne_eq, Node.firstOccurrences_eq_nil, List.append_eq_nil_iff,
      Classical.not_and_iff_not_or_not]

/-- A conjunction counts as true if the left side does and a node of it has the identity of
a node of the right side. -/
theorem truthy_join_both (left right : Selection) :
    (both.join left right).truthy = true ↔ left.truthy = true ∧
      ∃ node ∈ left.toList, node.identity ∈ right.toList.map Node.identity := by
  unfold join
  cases truthy : left.truthy with
  | true => simp [Selection.intersect, Selection.truthy]
  | false => simp [Selection.empty, Selection.truthy]

end Connective

end JsonQuery
