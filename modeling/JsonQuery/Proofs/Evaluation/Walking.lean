import JsonQuery.Proofs.Evaluation.Patterns

/-! Walking a chain leads where the chain leads, whatever patterns are in the table, and
compiles the patterns that are tested along the chain. -/

namespace JsonQuery

namespace Node

theorem elements_of_array {node : Node} {items : List Json} (array : node.value = .array items) :
    node.elements = node.children := by
  simp only [elements, array]

end Node

namespace Segment

theorem testedTexts_nil (segment : Segment) : segment.testedTexts [] = [] := by
  have none : segment.candidates [] = [] := by
    cases segment <;> simp [candidates, Node.visits]
  rw [testedTexts, none]
  rfl

variable [PatternEngine]

theorem compiles_spread (filter : Option Filter) (slice : Option Slice) (member : Node) :
    Compiles (spread filter slice member) (expand filter slice member)
      (Filter.textsOn filter member.elements) := by
  unfold spread expand
  cases value : member.value with
  | array items =>
    rw [Node.elements_of_array value]
    exact (Filter.compiles_keepIf filter member.children).map _
  | null | bool | number | string | object =>
    have none : member.elements = [] := by simp [Node.elements, value]
    cases filter <;> exact (Yields.pure _).congr fun text => by simp [Filter.mem_textsOn, none]

theorem compiles_reachMembers (name : String) (filter : Option Filter) (slice : Option Slice)
    (nodes : List Node) :
    Compiles (reachMembers name filter slice nodes)
      ((property name filter slice).leadsTo nodes)
      ((property name filter slice).testedTexts nodes) := by
  induction nodes with
  | nil => exact .pure []
  | cons node rest ih =>
    unfold reachMembers
    cases found : node.member? name with
    | none => simpa [leadsTo, testedTexts, candidates, found] using ih
    | some member =>
      rw [leadsTo_property_of_member found]
      refine ((compiles_spread filter slice member).bind (ih.map _)).congr fun text => ?_
      simp [testedTexts, candidates, filter?, found, Filter.mem_textsOn_append]

/-- Exploring is visiting, keeping what passes the filter, and taking the first node of each
identity. -/
theorem compiles_explore (filter : Filter) (visited taken : List Identity) (pending : List Node) :
    Compiles (explore filter visited taken pending)
      (Node.firstOccurrences taken (Filter.among (some filter) (Node.visits visited pending)))
      (Filter.textsOn (some filter) (Node.visits visited pending)) := by
  fun_induction Node.visits visited pending generalizing taken with
  | case1 => rw [explore]; exact .pure []
  | case2 visited node rest null ih => rw [explore, null]; exact ih taken
  | case3 visited node rest notNull seen ih =>
    rw [explore]
    split
    · contradiction
    · rw [if_pos seen]
      exact ih taken
  | case4 visited node rest notNull unseen ih =>
    rw [explore]
    split
    · contradiction
    · rw [if_neg unseen]
      simp only [dite_eq_ite] at ih
      generalize (if node.value.isContainer then node.identity :: visited else visited) = known
        at ih ⊢
      let below := Node.visits known (node.children ++ rest)
      -- A node that fails and one that is taken already both add nothing, so that the order
      -- of filtering and dropping repetitions does not matter.
      have tested : Compiles
          (if filter.accepts node.value = true ∧ node.identity ∉ taken then do
            let found ← explore filter known (node.identity :: taken) (node.children ++ rest)
            return node :: found
          else explore filter known taken (node.children ++ rest))
          (Node.firstOccurrences taken (Filter.among (some filter) (node :: below)))
          (Filter.textsOn (some filter) below) := by
        rw [Filter.among_some, List.filter_cons]
        by_cases passes : filter.accepts node.value = true
        · rw [if_pos passes, Node.firstOccurrences]
          by_cases same : node.identity ∈ taken
          · rw [if_neg (fun new => new.2 same), if_pos same]
            exact ih taken
          · rw [if_pos ⟨passes, same⟩, if_neg same]
            exact (ih (node.identity :: taken)).map _
        · rw [if_neg (fun new => passes new.1), if_neg passes]
          exact ih taken
      refine ((Filter.compiles_test filter node.value).bind tested).congr fun text => ?_
      simp [Filter.mem_textsOn, below]

theorem compiles_reach (segment : Segment) (nodes : List Node) :
    Compiles (segment.reach nodes) (segment.leadsTo nodes) (segment.testedTexts nodes) := by
  cases segment with
  | property name filter slice => exact compiles_reachMembers name filter slice nodes
  | wildcard filter => exact Filter.compiles_keepIf filter _
  | deepWildcard filter =>
    cases filter with
    | none =>
      refine (Yields.pure []).congr fun text => ?_
      simp [testedTexts, Filter.mem_textsOn, filter?]
    | some filter => exact compiles_explore filter [] [] nodes

theorem leadsTo_nil (segment : Segment) : segment.leadsTo [] = [] := by
  cases segment with
  | property name filter slice => rfl
  | wildcard filter => cases filter <;> rfl
  | deepWildcard filter =>
    cases filter with
    | none => rfl
    | some filter => simp [leadsTo, Node.visits, Filter.among_some, Node.firstOccurrences]

end Segment

namespace Chain

variable [PatternEngine]

theorem leadsTo_nil (chain : Chain) : chain.leadsTo [] = [] := by
  induction chain with
  | nil => rfl
  | cons segment rest ih => rw [leadsTo, segment.leadsTo_nil, ih]

theorem testedTexts_nil (chain : Chain) : chain.testedTexts [] = [] := by
  induction chain with
  | nil => rfl
  | cons segment rest ih =>
    rw [testedTexts, segment.testedTexts_nil, segment.leadsTo_nil, ih]
    rfl

/-- Ending a walk without nodes early changes nothing. -/
theorem compiles_walk (chain : Chain) (nodes : List Node) :
    Compiles (chain.walk nodes) (chain.leadsTo nodes) (chain.testedTexts nodes) := by
  induction chain generalizing nodes with
  | nil => exact .pure nodes
  | cons segment rest ih =>
    refine (segment.compiles_reach nodes).bind ?_
    cases reached : segment.leadsTo nodes with
    | nil =>
      rw [leadsTo, reached, leadsTo_nil, testedTexts_nil]
      exact .pure []
    | cons node others =>
      rw [leadsTo, reached]
      exact ih (node :: others)

end Chain

end JsonQuery
