import JsonQuery.Proofs.Binary64.Comparing
import JsonQuery.Proofs.Selection.Positions

/-! Unions and intersections as lists of nodes. A union keeps the earliest of identical nodes and an
intersection keeps them all, and both obey the laws of sets up to the order of what they keep. -/

namespace JsonQuery

namespace Node

/-- Two nodes are one member of a set: containers at one position, or other values of one kind that
are equal, numbers as doubles. -/
def Identical (node other : Node) : Prop :=
  match node.value, other.value with
  | .null, .null => True
  | .bool one, .bool two => one = two
  | .number one, .number two => (one.toBinary64 == two.toBinary64) = true
  | .string one, .string two => one = two
  | one, two =>
    one.isContainer = true ∧ two.isContainer = true ∧ node.position? = other.position?

theorem identity_eq_iff (node other : Node) :
    node.identity = other.identity ↔ node.Identical other := by
  cases node with
  | verdict one =>
    cases other with
    | verdict two => simp [identity, Identical, Node.value]
    | part position value =>
      cases value <;> simp [identity, identityAt, Identical, Node.value, Json.isContainer]
  | part position value =>
    cases other with
    | verdict two =>
      cases value <;> simp [identity, identityAt, Identical, Node.value, Json.isContainer]
    | part otherPosition otherValue =>
      cases value <;> cases otherValue <;>
        simp [identity, identityAt, Identical, Node.value, Json.isContainer, Number.rank_eq_iff,
          position?]

instance : DecidableRel Identical := fun node other =>
  decidable_of_iff _ (identity_eq_iff node other)

/-- Two whole numbers that round to one double are identical. -/
example : (part [0] (.number (.integer 9007199254740993))).Identical
    (part [1] (.number (.integer 9007199254740992))) := by
  decide +kernel

/-- The nodes of a list that are identical to none before them. -/
def earliest (nodes : List Node) : List Node :=
  (nodes.zipIdx.filter fun (node, index) =>
    decide (∀ earlier ∈ nodes.take index, ¬ earlier.Identical node)).map Prod.fst

variable {seen known : List Identity} {nodes others : List Node} {node : Node}

theorem mem_map_identity_iff : node.identity ∈ nodes.map identity ↔
    ∃ other ∈ nodes, other.Identical node := by
  simp only [List.mem_map, identity_eq_iff]

/-- Within one queried value nothing is identical to a container but itself. -/
theorem LiesIn.identical_iff_eq {value : Json} {other : Node} (lies : node.LiesIn value)
    (otherLies : other.LiesIn value) (container : node.value.isContainer = true) :
    node.Identical other ↔ node = other := by
  rw [← identity_eq_iff]
  exact ⟨lies.eq_of_identity otherLies container, fun same => same ▸ rfl⟩

/-- It matters only which of the listed nodes have been seen. -/
theorem firstOccurrences_congr
    (alike : ∀ node ∈ nodes, node.identity ∈ seen ↔ node.identity ∈ known) :
    firstOccurrences seen nodes = firstOccurrences known nodes := by
  induction nodes generalizing seen known with
  | nil => rfl
  | cons node rest ih =>
    obtain ⟨first, later⟩ := List.forall_mem_cons.mp alike
    rw [firstOccurrences, firstOccurrences]
    by_cases repeated : node.identity ∈ seen
    · rw [if_pos repeated, if_pos (first.mp repeated), ih later]
    · rw [if_neg repeated, if_neg (mt first.mpr repeated), ih]
      intro other member
      simp only [List.mem_cons, later other member]

/-- Nodes that are left out by their identity may be left out before or after. -/
theorem firstOccurrences_filter (keeps : Identity → Bool) (seen : List Identity)
    (nodes : List Node) : firstOccurrences seen (nodes.filter fun node => keeps node.identity) =
      (firstOccurrences seen nodes).filter fun node => keeps node.identity := by
  induction nodes generalizing seen with
  | nil => rfl
  | cons node rest ih =>
    by_cases kept : keeps node.identity = true
    · rw [List.filter_cons, if_pos kept, firstOccurrences, firstOccurrences]
      by_cases repeated : node.identity ∈ seen
      · rw [if_pos repeated, if_pos repeated, ih]
      · rw [if_neg repeated, if_neg repeated, List.filter_cons, if_pos kept, ih]
    · rw [List.filter_cons, if_neg kept, firstOccurrences]
      by_cases repeated : node.identity ∈ seen
      · rw [if_pos repeated, ih]
      · rw [if_neg repeated, List.filter_cons, if_neg kept, ← ih]
        apply firstOccurrences_congr
        intro other member
        have different : other.identity ≠ node.identity := by
          intro same
          exact kept (same ▸ (List.mem_filter.mp member).2)
        simp [different]

/-- Behind any nodes, others may be replaced by what is first among them. -/
theorem firstOccurrences_append_congr
    (alike : ∀ seen, firstOccurrences seen nodes = firstOccurrences seen others)
    (seen : List Identity) (front : List Node) :
    firstOccurrences seen (front ++ nodes) = firstOccurrences seen (front ++ others) := by
  induction front generalizing seen with
  | nil => exact alike seen
  | cons node rest ih =>
    rw [List.cons_append, List.cons_append, firstOccurrences, firstOccurrences, ih, ih]

/-- Keeping the first of each identity is keeping what is identical to nothing before it. The
induction is on what is left, behind the nodes whose identities have been seen. -/
theorem firstOccurrences_eq_filter (before nodes : List Node) :
    firstOccurrences (before.map identity) nodes =
      ((nodes.zipIdx before.length).filter fun (node, index) =>
        decide (∀ earlier ∈ (before ++ nodes).take index, ¬ earlier.Identical node)).map
          Prod.fst := by
  induction nodes generalizing before with
  | nil => rfl
  | cons node rest ih =>
    have front : (before ++ node :: rest).take before.length = before := List.take_left
    have fresh : (∀ earlier ∈ before, ¬ earlier.Identical node) ↔
        node.identity ∉ before.map identity := by
      rw [mem_map_identity_iff]
      simp
    have grown (identity : Identity) : identity ∈ (before ++ [node]).map Node.identity ↔
        identity = node.identity ∨ identity ∈ before.map Node.identity := by
      rw [List.map_append, List.mem_append, List.map_singleton, List.mem_singleton, or_comm]
    have later := ih (before ++ [node])
    rw [List.length_append, List.length_singleton, List.append_assoc, List.singleton_append]
      at later
    rw [firstOccurrences, List.zipIdx_cons]
    by_cases repeated : node.identity ∈ before.map identity
    · rw [if_pos repeated, List.filter_cons_of_neg, ← later]
      · apply firstOccurrences_congr
        intro other _
        rw [grown]
        exact ⟨.inr, fun known => known.elim (fun same => same ▸ repeated) id⟩
      · simpa only [front, decide_eq_true_eq, fresh, Classical.not_not] using repeated
    · rw [if_neg repeated, List.filter_cons_of_pos, List.map_cons, ← later]
      · apply congrArg (node :: ·)
        apply firstOccurrences_congr
        intro other _
        rw [grown, List.mem_cons]
      · simpa only [front, decide_eq_true_eq, fresh] using repeated

theorem firstOccurrences_eq_earliest (nodes : List Node) :
    firstOccurrences [] nodes = earliest nodes :=
  firstOccurrences_eq_filter [] nodes

end Node

namespace Selection

theorem toList_intersect (first second : Selection) :
    (first.intersect second).toList = first.toList.filter fun node =>
      decide (∃ other ∈ second.toList, other.Identical node) := by
  apply List.filter_congr
  intro node _
  simp only [Node.mem_map_identity_iff]

theorem union_assoc (first second third : Selection) :
    (first.union second).union third = first.union (second.union third) := by
  apply congrArg nodes
  have left := Node.firstOccurrences_append_firstOccurrences (List.Subset.refl [])
    (first.toList ++ second.toList) third.toList
  have right := Node.firstOccurrences_append_congr
    (fun seen => by
      simpa using Node.firstOccurrences_append_firstOccurrences (List.nil_subset seen)
        (second.toList ++ third.toList) [])
    [] first.toList
  rw [List.append_assoc] at left
  exact left.trans right.symm

theorem intersect_union (first second third : Selection) :
    (first.union second).intersect third =
      (first.intersect third).union (second.intersect third) := by
  apply congrArg nodes
  have early := Node.firstOccurrences_filter
    (fun identity => decide (identity ∈ third.toList.map Node.identity)) []
    (first.toList ++ second.toList)
  rw [List.filter_append] at early
  exact early.symm

theorem exists_identical_of_mem (first second : Selection) :
    ∀ node ∈ first.toList ++ second.toList,
      ∃ kept ∈ (first.union second).toList, kept.Identical node := by
  intro node member
  have found : node.identity ∈ [] ∨
      ∃ kept ∈ (first.union second).toList, kept.identity = node.identity :=
    Node.mem_identity_firstOccurrences member
  rcases found with none | ⟨kept, held, same⟩
  · cases none
  · exact ⟨kept, held, (Node.identity_eq_iff kept node).mp same⟩

theorem toList_intersect_union (first second : Selection) :
    (first.intersect (first.union second)).toList = first.toList := by
  rw [toList_intersect, List.filter_eq_self]
  intro node member
  exact decide_eq_true (exists_identical_of_mem first second node (List.mem_append_left _ member))

/-- Unions are associative, intersection distributes over them and absorbs them, and all this holds
of the lists of nodes and not only of the sets. An intersection keeps the nodes of its left side
that have an identical one on the right side, and a union keeps of all nodes of both sides those
that are identical to none before them. -/
theorem union_intersect_laws (first second third : Selection) :
    (first.union second).union third = first.union (second.union third) ∧
      (first.union second).intersect third =
        (first.intersect third).union (second.intersect third) ∧
      (first.intersect (first.union second)).toList = first.toList ∧
      (first.intersect second).toList = (first.toList.filter fun node =>
        decide (∃ other ∈ second.toList, other.Identical node)) ∧
      (first.union second).toList.Pairwise (fun node other => ¬ node.Identical other) ∧
      (∀ node ∈ first.toList ++ second.toList,
        ∃ kept ∈ (first.union second).toList, kept.Identical node) ∧
      (first.union second).toList = Node.earliest (first.toList ++ second.toList) ∧
      ∀ (value : Json) (node other : Node), node.LiesIn value → other.LiesIn value →
        node.value.isContainer = true → (node.Identical other ↔ node = other) := by
  refine ⟨union_assoc first second third, intersect_union first second third,
    toList_intersect_union first second, toList_intersect first second, ?_,
    exists_identical_of_mem first second, Node.firstOccurrences_eq_earliest _,
    fun _ _ _ => Node.LiesIn.identical_iff_eq⟩
  apply (Node.pairwise_identity_firstOccurrences [] (first.toList ++ second.toList)).imp
  intro node other different same
  exact different ((Node.identity_eq_iff node other).mpr same)

/-- Two empty arrays are members of their own, though they are equal. -/
theorem union_intersect_laws_arrays :
    (Node.part [0] (.array [])).LiesIn (.array [.array [], .array []]) ∧
      (Node.part [1] (.array [])).LiesIn (.array [.array [], .array []]) ∧
      ¬ (Node.part [0] (.array [])).Identical (.part [1] (.array [])) := by
  obtain ⟨_, _, _, _, _, _, _, same⟩ := union_intersect_laws empty empty empty
  refine ⟨rfl, rfl, fun identical => ?_⟩
  cases (same (.array [.array [], .array []]) (.part [0] (.array [])) (.part [1] (.array []))
    rfl rfl rfl).mp identical

end Selection

end JsonQuery
