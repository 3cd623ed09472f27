import JsonQuery.Proofs.Evaluation.Walking
import JsonQuery.Settings
import Mathlib

/-! Walking one chain behind another. A segment other than a deep wildcard looks at each node for
itself, so that what such a chain reaches from some nodes is what it reaches from each of them, one
after the other. Deep wildcards look at all nodes together, as they drop repetitions. -/

namespace JsonQuery

namespace Segment

variable [PatternEngine]

/-- From no nodes a segment reaches none, and it tests no filter on the way. -/
theorem reach_nil (segment : Segment) : segment.reach [] = pure [] := by
  cases segment with
  | property name filter slice => rfl
  | wildcard filter => cases filter <;> rfl
  | deepWildcard filter =>
    cases filter with
    | none => rfl
    | some filter =>
      rw [reach, explore]

variable {segment : Segment}

theorem leadsTo_append (shallow : ∀ filter, segment ≠ deepWildcard filter)
    (nodes others : List Node) :
    segment.leadsTo (nodes ++ others) = segment.leadsTo nodes ++ segment.leadsTo others := by
  cases segment with
  | property name filter slice => simp only [leadsTo, List.filterMap_append, List.flatMap_append]
  | wildcard filter =>
    cases filter with
    | none => simp only [leadsTo, Filter.among, Option.elim, List.flatMap_append]
    | some filter =>
      simp only [leadsTo, Filter.among_some, List.flatMap_append, List.filter_append]
  | deepWildcard filter => exact absurd rfl (shallow filter)

theorem leadsTo_eq_flatMap (shallow : ∀ filter, segment ≠ deepWildcard filter)
    (nodes : List Node) :
    segment.leadsTo nodes = nodes.flatMap fun node => segment.leadsTo [node] := by
  induction nodes with
  | nil => exact segment.leadsTo_nil
  | cons node rest ih =>
    rw [List.flatMap_cons, ← ih, ← leadsTo_append shallow]
    rfl

end Segment

namespace Chain

section Walking

variable [PatternEngine]

/-- Every segment is walked, also where nothing is reached. -/
def walkAll (chain : Chain) (nodes : List Node) : Compiling (List Node) :=
  chain.foldlM (fun reached segment => segment.reach reached) nodes

theorem walkAll_nil (chain : Chain) : chain.walkAll [] = pure [] := by
  induction chain with
  | nil => rfl
  | cons segment rest ih =>
    rw [walkAll, List.foldlM_cons, segment.reach_nil, pure_bind]
    exact ih

/-- To end a walk early is to walk on from nothing: neither what is reached nor which patterns are
compiled depends on it. -/
theorem walk_eq_walkAll (chain : Chain) (nodes : List Node) :
    chain.walk nodes = chain.walkAll nodes := by
  induction chain generalizing nodes with
  | nil => rfl
  | cons segment rest ih =>
    rw [walk, walkAll, List.foldlM_cons]
    refine bind_congr fun reached => ?_
    cases reached with
    | nil => exact (walkAll_nil rest).symm
    | cons node others => exact ih (node :: others)

theorem leadsTo_append (chain more : Chain) (nodes : List Node) :
    Chain.leadsTo (chain ++ more) nodes = more.leadsTo (chain.leadsTo nodes) := by
  induction chain generalizing nodes with
  | nil => rfl
  | cons segment rest ih => exact ih (segment.leadsTo nodes)

theorem leadsTo_eq_flatMap {chain : Chain} (shallow : ∀ filter, Segment.deepWildcard filter ∉ chain)
    (nodes : List Node) : chain.leadsTo nodes = nodes.flatMap fun node => chain.leadsTo [node] := by
  induction chain generalizing nodes with
  | nil => exact (List.flatMap_singleton' nodes).symm
  | cons segment rest ih =>
    have shallowRest : ∀ filter, Segment.deepWildcard filter ∉ rest := fun filter member =>
      shallow filter (.tail segment member)
    have shallowFirst : ∀ filter, segment ≠ .deepWildcard filter := by
      rintro filter rfl
      exact shallow filter (.head rest)
    calc leadsTo rest (segment.leadsTo nodes)
        = (segment.leadsTo nodes).flatMap fun reached => leadsTo rest [reached] := ih shallowRest _
      _ = nodes.flatMap fun node =>
            (segment.leadsTo [node]).flatMap fun reached => leadsTo rest [reached] := by
          rw [Segment.leadsTo_eq_flatMap shallowFirst, List.flatMap_assoc]
      _ = nodes.flatMap fun node => leadsTo rest (segment.leadsTo [node]) :=
          List.flatMap_congr fun node _ => (ih shallowRest _).symm

/-- Walking one chain and then another one without deep wildcards reaches, in order, what the other
one reaches from each node that the first one reaches. Ending a walk early changes nothing, and the
filter of a wildcard may be applied to the children of all nodes or of one node after the other. -/
theorem walks_concatenated {table : PatternTable} (sound : table.Sound) (chain : Chain) {more : Chain}
    (shallow : ∀ filter, Segment.deepWildcard filter ∉ more) (nodes : List Node) :
    (((chain ++ more : Chain).walk nodes).run table).1 =
        ((chain.walk nodes).run table).1.flatMap (fun node => ((more.walk [node]).run table).1) ∧
      (∀ steps : Chain, steps.walk nodes =
        steps.foldlM (fun reached segment => segment.reach reached) nodes) ∧
      ∀ filter, (((Segment.wildcard filter).reach nodes).run table).1 =
        nodes.flatMap fun node => (((Segment.wildcard filter).reach [node]).run table).1 := by
  have walked (steps : Chain) (starts : List Node) :
      ((steps.walk starts).run table).1 = steps.leadsTo starts :=
    (steps.compiles_walk starts table sound).1
  have reached (segment : Segment) (starts : List Node) :
      ((segment.reach starts).run table).1 = segment.leadsTo starts :=
    (segment.compiles_reach starts table sound).1
  refine ⟨?_, fun steps => steps.walk_eq_walkAll nodes, fun filter => ?_⟩
  · simp only [walked, leadsTo_append]
    exact leadsTo_eq_flatMap shallow _
  · simp only [reached]
    exact Segment.leadsTo_eq_flatMap (fun _ => Segment.noConfusion) nodes

end Walking

/-- Two nodes are reached first, and the elements of either member are turned round for itself. -/
theorem walks_concatenated_reversed :
    let chain : Chain := [.wildcard none]
    let more : Chain := [.property "a" none (some ⟨none, none, some (-1)⟩)]
    let first : Json := .object [("a", .array [.null, .bool true])]
    let second : Json := .object [("a", .array [.string "x", .string "y"])]
    let nodes : List Node := [Node.root (.array [first, second])]
    PatternTable.empty.Sound ∧ (∀ filter, Segment.deepWildcard filter ∉ more) ∧
      (((chain ++ more : Chain).walk nodes).run .empty).1 =
        [.part [0, 0, 1] (.bool true), .part [0, 0, 0] .null, .part [1, 0, 1] (.string "y"),
          .part [1, 0, 0] (.string "x")] := by
  intro chain more first second nodes
  have shallow : ∀ filter, Segment.deepWildcard filter ∉ more := by simp [more]
  refine ⟨PatternTable.sound_empty, shallow, ?_⟩
  rw [(walks_concatenated PatternTable.sound_empty chain shallow nodes).1]
  cbv

end Chain

end JsonQuery
