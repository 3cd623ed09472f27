import JsonQuery.Proofs.Evaluation.Walking
import JsonQuery.Proofs.Selection.Subtree
import JsonQuery.Settings
import Mathlib

/-! What a deep wildcard visits. It keeps a list of what is still to be visited, and enters no
container twice. Nothing is lost by this: when a container comes up again, all that lies below it
was visited before. So the nodes that pass the filter are those of the subtrees of the nodes that
the wildcard starts with, in document order, the first of each identity. -/

namespace JsonQuery

def Json.isNull : Json → Bool
  | null => true
  | _ => false

theorem Json.isNull_eq_false {value : Json} : value.isNull = false ↔ value ≠ null := by
  cases value <;> simp [isNull]

namespace Node

/-- The kept nodes are all nodes but some that are among the earlier ones or were kept before. -/
inductive Thinned : List Node → List Node → List Node → Prop where
  | nil (earlier : List Node) : Thinned earlier [] []
  | keep {node : Node} {earlier kept all : List Node} (rest : Thinned (node :: earlier) kept all) :
    Thinned earlier (node :: kept) (node :: all)
  | drop {node : Node} {earlier kept all : List Node} (known : node ∈ earlier)
    (rest : Thinned earlier kept all) : Thinned earlier kept (node :: all)

variable {value : Json} {nodes pending earlier kept all : List Node} {node other : Node}
  {visited : List Identity}

/-- The nodes in the subtrees of some nodes, without nulls. -/
def present (nodes : List Node) : List Node :=
  (subtrees nodes).filter fun node => !node.value.isNull

theorem present_append (nodes others : List Node) :
    present (nodes ++ others) = present nodes ++ present others := by
  rw [present, subtrees_append, List.filter_append, present, present]

theorem present_cons (node : Node) (rest : List Node) :
    present (node :: rest) = present [node] ++ present rest :=
  present_append [node] rest

theorem present_singleton (notNull : node.value ≠ .null) :
    present [node] = node :: present node.children := by
  rw [present, subtrees_singleton, subtree_eq, List.filter_cons, Json.isNull_eq_false.mpr notNull]
  rfl

theorem present_null (null : node.value = .null) : present [node] = [] := by
  have childless : node.children = [] := by
    cases node with
    | part position value =>
      obtain rfl : value = .null := null
      rfl
    | verdict => rfl
  rw [present, subtrees_singleton, subtree_eq, childless, List.filter_cons, null]
  rfl

theorem liesIn_of_mem_present (inside : ∀ node ∈ nodes, node.LiesIn value)
    (member : other ∈ present nodes) : other.LiesIn value := by
  obtain ⟨node, listed, below⟩ := mem_subtrees.mp (List.mem_of_mem_filter member)
  exact (inside node listed).of_mem_subtree below

theorem Thinned.drop_all {others : List Node} (known : ∀ node ∈ others, node ∈ earlier)
    (rest : Thinned earlier kept all) : Thinned earlier kept (others ++ all) := by
  induction others with
  | nil => exact rest
  | cons node others ih =>
    obtain ⟨first, later⟩ := List.forall_mem_cons.mp known
    exact .drop first (ih later)

theorem Thinned.firstOccurrences (thinned : Thinned earlier kept all) (accepts : Node → Bool)
    {seen : List Identity}
    (known : ∀ node ∈ earlier, accepts node = true → node.identity ∈ seen) :
    firstOccurrences seen (kept.filter accepts) = firstOccurrences seen (all.filter accepts) := by
  induction thinned generalizing seen with
  | nil => rfl
  | @keep node earlier kept all rest ih =>
    rw [List.filter_cons, List.filter_cons]
    by_cases accepted : accepts node = true
    · rw [if_pos accepted, if_pos accepted, Node.firstOccurrences, Node.firstOccurrences]
      by_cases repeated : node.identity ∈ seen
      · rw [if_pos repeated, if_pos repeated]
        exact ih (List.forall_mem_cons.mpr ⟨fun _ => repeated, known⟩)
      · rw [if_neg repeated, if_neg repeated]
        congr 1
        refine ih (List.forall_mem_cons.mpr ⟨fun _ => List.mem_cons_self, ?_⟩)
        exact fun other held passes => .tail _ (known other held passes)
    · rw [if_neg accepted, if_neg accepted]
      exact ih (List.forall_mem_cons.mpr ⟨fun passes => absurd passes accepted, known⟩)
  | @drop node earlier kept all held rest ih =>
    rw [List.filter_cons]
    by_cases accepted : accepts node = true
    · rw [if_pos accepted, Node.firstOccurrences, if_pos (known node held accepted)]
      exact ih known
    · rw [if_neg accepted]
      exact ih known

/-- Whenever a visited container comes up in the subtrees of the pending nodes, all that lies
below it has come up before. -/
def Settled (visited : List Identity) (earlier pending : List Node) : Prop :=
  ∀ before node after, present pending = before ++ node :: after →
    node.value.isContainer = true → node.identity ∈ visited →
      ∀ other ∈ present [node], other ∈ earlier ∨ other ∈ before

theorem settled_nil (earlier pending : List Node) : Settled [] earlier pending :=
  fun _ _ _ _ _ visited => nomatch visited

theorem Settled.anti {fewer : List Identity} (settled : Settled visited earlier pending)
    (subset : ∀ identity ∈ fewer, identity ∈ visited) : Settled fewer earlier pending :=
  fun before node after split container seen =>
    settled before node after split container (subset _ seen)

/-- What lies below a visited container that is pending has come up before. -/
theorem Settled.known (settled : Settled visited earlier (node :: pending))
    (notNull : node.value ≠ .null) (container : node.value.isContainer = true)
    (seen : node.identity ∈ visited) : ∀ other ∈ present [node], other ∈ earlier := by
  intro other member
  have first : present (node :: pending) = [] ++ node :: (present node.children ++ present pending) := by
    rw [present_cons, present_singleton notNull]
    rfl
  rcases settled [] node _ first container seen other member with known | none
  · exact known
  · cases none

/-- Skipping what has come up before changes nothing. -/
theorem Settled.skipped (settled : Settled visited earlier (node :: pending))
    (known : ∀ other ∈ present [node], other ∈ earlier) : Settled visited earlier pending := by
  intro before again after split container seen other member
  have whole : present (node :: pending) = (present [node] ++ before) ++ again :: after := by
    rw [present_cons, split, List.append_assoc]
  rcases settled _ again after whole container seen other member with early | between
  · exact .inl early
  · rcases List.mem_append.mp between with skipped | between
    · exact .inl (known other skipped)
    · exact .inr between

theorem notMem_present_children (node : Node) : node ∉ present node.children :=
  fun member => node.not_mem_subtrees_children (List.mem_of_mem_filter member)

/-- What stands in front of a list is before a node that comes up only after it. -/
theorem mem_before_of_split {front rest before after : List Node} (absent : node ∉ front)
    (split : front ++ rest = before ++ node :: after) : ∀ other ∈ front, other ∈ before := by
  intro other member
  rcases List.append_eq_append_iff.mp split with ⟨between, rfl, _⟩ | ⟨between, rfl, tail⟩
  · exact List.mem_append_left _ member
  · cases between with
    | nil => rwa [List.append_nil] at member
    | cons first between =>
      obtain rfl := (List.cons.inj tail).1
      exact absurd (List.mem_append_right _ List.mem_cons_self) absent

/-- A node does not lie below itself, so that it can come up again only after all that lies
below it. -/
theorem Settled.entered (inside : ∀ held ∈ node :: pending, held.LiesIn value)
    (settled : Settled visited earlier (node :: pending)) (notNull : node.value ≠ .null) :
    Settled (node.identity :: visited) (node :: earlier) (node.children ++ pending) := by
  intro before again after split container seen other member
  have whole : present (node :: pending) = (node :: before) ++ again :: after := by
    rw [present_cons, present_singleton notNull, List.cons_append, ← present_append, split]
    rfl
  rcases List.mem_cons.mp seen with same | old
  -- It is the node itself that comes up again, and not among what lies below it.
  · have againLies : again.LiesIn value := by
      refine liesIn_of_mem_present inside ?_
      rw [whole]
      exact List.mem_append_right _ List.mem_cons_self
    obtain rfl := againLies.eq_of_identity (inside node List.mem_cons_self) container same
    rw [present_append] at split
    rw [present_singleton notNull] at member
    rcases List.mem_cons.mp member with rfl | below
    · exact .inl List.mem_cons_self
    · exact .inr (mem_before_of_split again.notMem_present_children split other below)
  · rcases settled _ again after whole container old other member with known | between
    · exact .inl (.tail _ known)
    · rcases List.mem_cons.mp between with rfl | between
      · exact .inl List.mem_cons_self
      · exact .inr between

theorem visits_thinned (inside : ∀ node ∈ pending, node.LiesIn value)
    (settled : Settled visited earlier pending) :
    Thinned earlier (visits visited pending) (present pending) := by
  fun_induction visits visited pending generalizing earlier with
  | case1 => exact .nil earlier
  | case2 visited node rest null ih =>
    have nothing := present_null null
    rw [present_cons, nothing]
    refine ih (List.forall_mem_cons.mp inside).2 (settled.skipped ?_)
    rw [nothing]
    exact List.forall_mem_nil _
  | case3 visited node rest notNull seen ih =>
    -- The whole subtree has come up before, so that it may be left out.
    have known := settled.known notNull seen.1 seen.2
    rw [present_cons]
    exact .drop_all known (ih (List.forall_mem_cons.mp inside).2 (settled.skipped known))
  | case4 visited node rest notNull unseen ih =>
    simp only [dite_eq_ite] at ih
    -- The children stand where they stand in the subtrees: behind the node, before the others.
    rw [present_cons, present_singleton notNull, List.cons_append, ← present_append]
    refine .keep (ih ?_ ?_)
    · obtain ⟨lies, others⟩ := List.forall_mem_cons.mp inside
      refine fun other member => (List.mem_append.mp member).elim ?_ (others other)
      exact lies.child
    · have entered := settled.entered inside notNull
      split
      · exact entered
      · exact entered.anti fun _ => .tail _

end Node

namespace Segment

variable {value : Json} {nodes : List Node} {table : PatternTable}

/-- Visiting once loses nothing: a deep wildcard leads to what it would lead to if it went through
every subtree. -/
theorem leadsTo_deepWildcard [PatternEngine] (filter : Filter)
    (inside : ∀ node ∈ nodes, node.LiesIn value) :
    (deepWildcard (some filter)).leadsTo nodes =
      Node.firstOccurrences [] ((Node.present nodes).filter (filter.accepts ·.value)) := by
  have thinned := Node.visits_thinned inside (Node.settled_nil [] nodes)
  exact thinned.firstOccurrences (filter.accepts ·.value) (List.forall_mem_nil _)

/-- A deep wildcard reaches the nodes that pass the filter of those in the subtrees of the nodes
that it starts with, subtree after subtree and in document order, without nulls. Of several nodes
with one identity it reaches the first. -/
theorem explores_in_document_order [PatternEngine] (filter : Filter) (sound : table.Sound)
    (inside : ∀ node ∈ nodes, node.LiesIn value) :
    (((deepWildcard (some filter)).reach nodes).run table).1 =
      Node.firstOccurrences [] ((Node.subtrees nodes).filter fun node =>
        !node.value.isNull && ((filter.test node.value).run table).1) := by
  have tested : ∀ node : Node, ((filter.test node.value).run table).1 = filter.accepts node.value :=
    fun node => (filter.compiles_test node.value table sound).1
  rw [(compiles_reach _ nodes table sound).1, leadsTo_deepWildcard filter inside, Node.present,
    List.filter_filter]
  simp only [tested, Bool.and_comm]

/-- The first node lies below the second one, which is listed twice, and the zeros of both signs
are one number. -/
theorem explores_in_document_order_nested :
    let filter : Filter := .comparison .equal ⟨"x"⟩ .undefined
    let inner : Json := .array [.null, .number (.float (.zero false))]
    let value : Json := .array [inner, .number (.float (.zero true)), .bool true]
    let nodes : List Node := [.part [0] inner, .root value, .root value]
    (∀ node ∈ nodes, node.LiesIn value) ∧ PatternTable.empty.Sound ∧
      Node.firstOccurrences [] ((Node.subtrees nodes).filter fun node =>
          !node.value.isNull && ((filter.test node.value).run .empty).1) =
        [.part [0] inner, .part [0, 1] (.number (.float (.zero false))), .root value,
          .part [2] (.bool true)] := by
  intro filter inner value nodes
  have inside : ∀ node ∈ nodes, node.LiesIn value :=
    List.forall_mem_cons.mpr ⟨rfl, List.forall_mem_cons.mpr ⟨rfl, List.forall_mem_singleton.mpr rfl⟩⟩
  have reached : (((deepWildcard (some filter)).reach nodes).run .empty).1 =
      [.part [0] inner, .part [0, 1] (.number (.float (.zero false))), .root value,
        .part [2] (.bool true)] := by
    cbv
  have explored := explores_in_document_order filter PatternTable.sound_empty inside
  exact ⟨inside, PatternTable.sound_empty, explored.symm.trans reached⟩

theorem exists_leadsTo_deepWildcard [PatternEngine] (filter : Filter)
    (inside : ∀ node ∈ nodes, node.LiesIn value) {node below : Node} (listed : node ∈ nodes)
    (reaches : node.Reaches below) (notNull : below.value ≠ .null) (passes : filter.accepts below.value = true) :
    ∃ found ∈ (deepWildcard (some filter)).leadsTo nodes, found.identity = below.identity := by
  have present : below ∈ Node.present nodes := by
    have reached := Node.mem_subtrees.mpr ⟨node, listed, Node.mem_subtree.mpr reaches⟩
    refine List.mem_filter.mpr ⟨reached, ?_⟩
    rw [Json.isNull_eq_false.mpr notNull]
    rfl
  rw [leadsTo_deepWildcard filter inside]
  exact (Node.mem_identity_firstOccurrences (List.mem_filter.mpr ⟨present, passes⟩)).resolve_left
    List.not_mem_nil

/-- Everything but nulls that passes the filter is reached by a deep wildcard, up to identity: what
lies below a node that it starts with, at any depth, and therefore what a wildcard reaches. -/
theorem explores_all_but_nulls [PatternEngine] (filter : Filter) (sound : table.Sound)
    (inside : ∀ node ∈ nodes, node.LiesIn value) :
    let explored := (((deepWildcard (some filter)).reach nodes).run table).1
    (∀ node ∈ nodes, ∀ below, node.Reaches below → below.value ≠ .null →
        ((filter.test below.value).run table).1 = true →
          ∃ found ∈ explored, found.identity = below.identity) ∧
      ∀ below ∈ (((wildcard (some filter)).reach nodes).run table).1, below.value ≠ .null →
        ∃ found ∈ explored, found.identity = below.identity := by
  intro explored
  have led : explored = (deepWildcard (some filter)).leadsTo nodes :=
    (compiles_reach _ nodes table sound).1
  rw [led, (compiles_reach (wildcard (some filter)) nodes table sound).1]
  constructor
  · intro node listed below reaches notNull passes
    rw [(filter.compiles_test below.value table sound).1] at passes
    exact exists_leadsTo_deepWildcard filter inside listed reaches notNull passes
  · intro below member notNull
    obtain ⟨children, passes⟩ := List.mem_filter.mp member
    obtain ⟨node, listed, child⟩ := List.mem_flatMap.mp children
    exact exists_leadsTo_deepWildcard filter inside listed (.single child) notNull passes

/-- Two steps below the only node is a truth value that passes the filter, beside a null. -/
theorem explores_all_but_nulls_below :
    let filter : Filter := .comparison .equal ⟨"x"⟩ .undefined
    let inner : Json := .array [.null, .bool true]
    let value : Json := .object [("a", inner)]
    (∀ node ∈ [Node.root value], node.LiesIn value) ∧ PatternTable.empty.Sound ∧
      (Node.root value).Reaches (.part [0, 1] (.bool true)) ∧
      ((filter.test (.bool true)).run .empty).1 = true ∧
      ∃ found ∈ (((deepWildcard (some filter)).reach [.root value]).run .empty).1,
        found.identity = .bool true := by
  intro filter inner value
  have inside : ∀ node ∈ [Node.root value], node.LiesIn value :=
    List.forall_mem_singleton.mpr (Node.liesIn_root value)
  have first : Node.part [0] inner ∈ (Node.root value).children := List.mem_cons_self
  have second : Node.part [0, 1] (.bool true) ∈ (Node.part [0] inner).children :=
    .tail _ List.mem_cons_self
  have reaches : (Node.root value).Reaches (.part [0, 1] (.bool true)) := .tail (.single first) second
  have passes : ((filter.test (.bool true)).run .empty).1 = true := by cbv
  have notNull : (Node.part [0, 1] (.bool true)).value ≠ .null := Json.isNull_eq_false.mp rfl
  have explored := (explores_all_but_nulls filter PatternTable.sound_empty inside).1 _
    List.mem_cons_self _ reaches notNull passes
  exact ⟨inside, PatternTable.sound_empty, reaches, passes, explored⟩

/-- A filter that holds where its path leads nowhere holds of a null, but only a wildcard reaches
one. -/
theorem null_not_explored :
    let filter : Filter := .comparison .equal ⟨"x"⟩ .undefined
    let value : Json := .array [.null]
    (Node.root value).Reaches (.part [0] .null) ∧
      ((filter.test .null).run .empty).1 = true ∧
      (((wildcard (some filter)).reach [.root value]).run .empty).1 = [.part [0] .null] ∧
      ∀ found ∈ (((deepWildcard (some filter)).reach [.root value]).run .empty).1,
        found.identity ≠ (Node.part [0] .null).identity := by
  intro filter value
  have explored : (((deepWildcard (some filter)).reach [.root value]).run .empty).1 =
      [.root value] := by
    cbv
  refine ⟨.single List.mem_cons_self, by cbv, by cbv, ?_⟩
  rw [explored]
  exact List.forall_mem_singleton.mpr (by decide)

end Segment

end JsonQuery
