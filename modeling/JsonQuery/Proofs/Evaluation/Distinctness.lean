import JsonQuery.Proofs.Evaluation.Lattice
import JsonQuery.Proofs.Query.SliceIndices
import JsonQuery.Proofs.Selection.Positions
import JsonQuery.Settings
import Mathlib

/-! Every selection is made of different nodes of the queried value. Each segment leads from
nodes at different positions to nodes at different positions, and what connectives add are the
truth values of negations, each at most once. -/

namespace JsonQuery

open Node (LiesIn DistinctParts Distinct)

variable {value : Json} {nodes : List Node} {node other : Node}

namespace Node

theorem member?_eq_some {name : String} {member : Node}
    (found : node.member? name = some member) :
    member ∈ node.children ∧ ∃ members, node.value = .object members := by
  obtain ⟨index, located, reached⟩ := Option.bind_eq_some_iff.mp found
  refine ⟨List.mem_of_getElem? reached, ?_⟩
  cases shape : node.value with
  | object members => exact ⟨members, rfl⟩
  | null | bool | number | string | array =>
    rw [shape] at located
    cases located

theorem liesIn_of_mem_visits {visited : List Identity} {pending : List Node}
    (inside : ∀ node ∈ pending, node.LiesIn value) :
    ∀ node ∈ visits visited pending, node.LiesIn value := by
  fun_induction visits visited pending with
  | case1 => exact List.forall_mem_nil _
  | case2 visited node rest null ih => exact ih (List.forall_mem_cons.mp inside).2
  | case3 visited node rest notNull seen ih => exact ih (List.forall_mem_cons.mp inside).2
  | case4 visited node rest notNull unseen ih =>
    obtain ⟨first, later⟩ := List.forall_mem_cons.mp inside
    refine List.forall_mem_cons.mpr ⟨first, ih ?_⟩
    exact List.forall_mem_append.mpr ⟨fun child member => first.child member, later⟩

end Node

theorem Connective.mem_join {connective : Connective} {left right : Selection}
    (member : node ∈ (connective.join left right).toList) :
    node ∈ left.toList ∨ node ∈ right.toList := by
  cases connective with
  | both =>
    rw [join] at member
    split at member
    · exact .inl (List.mem_of_mem_filter member)
    · cases member
  | either =>
    rw [join] at member
    split at member
    · exact .inl member
    · exact List.mem_append.mp ((Node.firstOccurrences_sublist [] _).subset member)

theorem Expression.isNegationFree_of_part? {whole part : Expression}
    (free : whole.isNegationFree = true) {place : Place} (found : whole.part? place = some part) : part.isNegationFree = true := by
  induction place generalizing part with
  | nil => exact Option.some.inj found ▸ free
  | cons branch place ih =>
    obtain ⟨outer, reached, step⟩ := Option.bind_eq_some_iff.mp found
    have outerFree := ih reached
    cases outer with
    | chain => cases branch <;> cases step
    | negation => cases outerFree
    | joined connective left right =>
      obtain ⟨leftFree, rightFree⟩ := Bool.and_eq_true_iff.mp outerFree
      cases branch with
      | operand => cases step
      | left => exact Option.some.inj step ▸ leftFree
      | right => exact Option.some.inj step ▸ rightFree

section Answers

variable [PatternEngine]

theorem Filter.among_sublist (filter : Option Filter) (nodes : List Node) :
    (among filter nodes).Sublist nodes := by
  cases filter with
  | none => exact .refl _
  | some filter => exact List.filter_sublist

namespace Segment

variable {filter : Option Filter} {slice : Option Slice} {member otherMember : Node}

theorem mem_expand (reached : node ∈ expand filter slice member) :
    (node = member ∧ ∀ items, member.value ≠ .array items) ∨
      node ∈ member.children ∧ ∃ items, member.value = .array items := by
  unfold expand at reached
  cases shape : member.value with
  | array items =>
    rw [shape] at reached
    have listed : node ∈ Filter.among filter member.elements := by
      cases slice with
      | none => exact reached
      | some slice => exact Slice.mem_of_mem_apply reached
    rw [Node.elements_of_array shape] at listed
    exact .inr ⟨(Filter.among_sublist filter _).subset listed, items, rfl⟩
  | null | bool | number | string | object =>
    rw [shape] at reached
    cases filter with
    | some filter => cases reached
    | none => exact .inl ⟨List.mem_singleton.mp reached, fun items same => by cases same⟩

theorem distinct_expand (filter : Option Filter) (slice : Option Slice) (member : Node) :
    Distinct (expand filter slice member) := by
  unfold expand
  cases shape : member.value with
  | array items =>
    have elements : Distinct (Filter.among filter member.elements) := by
      rw [Node.elements_of_array shape]
      exact member.distinct_children.sublist (Filter.among_sublist filter _)
    cases slice with
    | none => exact elements
    | some slice => exact slice.pairwise_apply Ne.symm elements
  | null | bool | number | string | object =>
    cases filter with
    | some filter => exact .nil
    | none => exact List.pairwise_singleton _ member

/-- What one property leads to from different nodes is different. Only a member and an element of
another member could be at one position, but then the first node would be an array. -/
theorem origin_expand_ne {name : String} {reached otherReached : Node} (lies : node.LiesIn value)
    (otherLies : other.LiesIn value) (different : node.origin ≠ other.origin)
    (found : node.member? name = some member) (otherFound : other.member? name = some otherMember)
    (leads : reached ∈ expand filter slice member)
    (otherLeads : otherReached ∈ expand filter slice otherMember) :
    reached.origin ≠ otherReached.origin := by
  obtain ⟨child, members, object⟩ := Node.member?_eq_some found
  obtain ⟨otherChild, otherMembers, otherObject⟩ := Node.member?_eq_some otherFound
  rcases mem_expand leads with ⟨rfl, _⟩ | ⟨element, items, array⟩ <;>
    rcases mem_expand otherLeads with ⟨rfl, _⟩ | ⟨otherElement, otherItems, otherArray⟩
  · exact Node.origin_child_ne different child otherChild
  · refine Node.origin_child_ne (fun same => ?_) child otherElement
    have equal := lies.eq_of_origin (otherLies.child otherChild) same
    rw [equal, otherArray] at object
    cases object
  · refine Node.origin_child_ne (fun same => ?_) element otherChild
    have equal := (lies.child child).eq_of_origin otherLies same
    rw [← equal, array] at otherObject
    cases otherObject
  · exact Node.origin_child_ne (Node.origin_child_ne different child otherChild) element
      otherElement

theorem liesIn_of_mem_expand {name : String} {reached : Node} (lies : node.LiesIn value)
    (found : node.member? name = some member) (leads : reached ∈ expand filter slice member) :
    reached.LiesIn value := by
  have memberLies := lies.child (Node.member?_eq_some found).1
  rcases mem_expand leads with ⟨rfl, _⟩ | ⟨element, _⟩
  · exact memberLies
  · exact memberLies.child element

theorem distinctParts_leadsTo (segment : Segment) (parts : DistinctParts value nodes) :
    DistinctParts value (segment.leadsTo nodes) := by
  cases segment with
  | property name filter slice =>
    constructor
    · intro reached leads
      obtain ⟨member, listed, leads⟩ := List.mem_flatMap.mp leads
      obtain ⟨node, held, found⟩ := List.mem_filterMap.mp listed
      exact liesIn_of_mem_expand (parts.inside node held) found leads
    · refine List.pairwise_flatMap.mpr ⟨fun member _ => distinct_expand filter slice member, ?_⟩
      refine List.pairwise_filterMap.mpr (parts.distinct.imp_of_mem ?_)
      intro node other held otherHeld different member found otherMember otherFound
        reached leads otherReached otherLeads
      exact origin_expand_ne (parts.inside node held) (parts.inside other otherHeld) different
        found otherFound leads otherLeads
  | wildcard filter => exact parts.children.sublist (Filter.among_sublist filter _)
  | deepWildcard filter =>
    cases filter with
    | none => exact ⟨List.forall_mem_nil _, .nil⟩
    | some filter =>
      have visited : ∀ node ∈ Node.visits [] nodes, node.LiesIn value :=
        Node.liesIn_of_mem_visits parts.inside
      have passing : ∀ node ∈ Filter.among (some filter) (Node.visits [] nodes),
          node.LiesIn value :=
        fun node member => visited node ((Filter.among_sublist (some filter) _).subset member)
      constructor
      · exact fun node member => passing node ((Node.firstOccurrences_sublist [] _).subset member)
      · exact Node.distinct_firstOccurrences fun node held other otherHeld same =>
          (passing node held).eq_of_origin (passing other otherHeld) same

end Segment

theorem Chain.distinctParts_leadsTo (chain : Chain) (parts : DistinctParts value nodes) :
    DistinctParts value (chain.leadsTo nodes) := by
  induction chain generalizing nodes with
  | nil => exact parts
  | cons segment rest ih => exact ih (segment.distinctParts_leadsTo parts)

/-- The nodes that a selection of an expression on a value may have: the parts of the value, and
the truth values of the negations that are parts of the expression. -/
inductive Node.AnswerOf (whole : Expression) (value : Json) : Node → Prop where
  | part {node : Node} (lies : node.LiesIn value) : AnswerOf whole value node
  | verdict {place : Place} {operand : Expression}
      (negated : whole.part? place = some (.negation operand)) :
      AnswerOf whole value (.verdict !(operand.answer value).truthy)

/-- From one position comes one part, and from negations with one truth value one verdict. -/
theorem Node.AnswerOf.eq_of_origin {whole : Expression} (answer : node.AnswerOf whole value)
    (otherAnswer : other.AnswerOf whole value) (same : node.origin = other.origin) :
    node = other := by
  cases node with
  | part position child =>
    cases other with
    | part otherPosition otherChild =>
      obtain ⟨lies⟩ := answer
      obtain ⟨otherLies⟩ := otherAnswer
      exact lies.eq_of_origin otherLies same
    | verdict => cases same
  | verdict truth =>
    cases other with
    | part => cases same
    | verdict otherTruth => exact congrArg _ (Origin.verdict.inj same)

/-- A conjunction drops nodes of its left side, and a disjunction keeps one node of each identity
unless it is its left side. -/
theorem Connective.distinct_join {whole : Expression} {connective : Connective}
    {left right : Selection} (leftAnswers : ∀ node ∈ left.toList, node.AnswerOf whole value)
    (rightAnswers : ∀ node ∈ right.toList, node.AnswerOf whole value)
    (distinct : Distinct left.toList) : Distinct (connective.join left right).toList := by
  cases connective with
  | both =>
    rw [join]
    split
    · exact distinct.sublist List.filter_sublist
    · exact .nil
  | either =>
    rw [join]
    split
    · exact distinct
    · have answers := List.forall_mem_append.mpr ⟨leftAnswers, rightAnswers⟩
      exact Node.distinct_firstOccurrences fun node held other otherHeld same =>
        (answers node held).eq_of_origin (answers other otherHeld) same

namespace Expression

theorem answers_selection {whole part : Expression} {place : Place}
    (found : whole.part? place = some part) (value : Json) :
    (∀ node ∈ (part.selection value).toList, node.AnswerOf whole value) ∧
      Distinct (part.selection value).toList := by
  induction part generalizing place with
  | chain segments =>
    have parts := segments.distinctParts_leadsTo (Node.distinctParts_root value)
    exact ⟨fun node member => .part (parts.inside node member), parts.distinct⟩
  | negation operand ih =>
    refine ⟨List.forall_mem_singleton.mpr ?_, List.pairwise_singleton _ _⟩
    rw [← answer_eq_selection]
    exact .verdict found
  | joined connective left right leftIh rightIh =>
    obtain ⟨leftAnswers, distinct⟩ := leftIh (part?_operand .left found rfl)
    obtain ⟨rightAnswers, _⟩ := rightIh (part?_operand .right found rfl)
    constructor
    · intro node member
      rcases Connective.mem_join member with fromLeft | fromRight
      · exact leftAnswers node fromLeft
      · exact rightAnswers node fromRight
    · exact Connective.distinct_join leftAnswers rightAnswers distinct

/-- What an expression selects are parts of the value or verdicts of its own negations, no part
twice and neither verdict twice. Without negations it selects parts of the value only. -/
theorem answer_distinct (expression : Expression) (value : Json) :
    (∀ node ∈ (expression.answer value).toList, node.AnswerOf expression value) ∧
      Distinct (expression.answer value).toList ∧
      (expression.isNegationFree = true →
        ∀ node ∈ (expression.answer value).toList, node.LiesIn value) := by
  have whole : expression.part? [] = some expression := rfl
  obtain ⟨answers, distinct⟩ := answers_selection whole value
  rw [answer_eq_selection]
  refine ⟨answers, distinct, fun free node member => ?_⟩
  cases answers node member with
  | part lies => exact lies
  | verdict negated => cases isNegationFree_of_part? free negated

end Expression

end Answers

/-- An element that a property puts in the place of an array, two steps below the object. -/
theorem Expression.answer_distinct_element :
    (joined .both (chain [.property "a" none none])
        (chain [.property "a" none (some ⟨none, none, some (-1)⟩)])).isNegationFree = true ∧
      Node.part [0, 1] .null ∈ ((joined .both (chain [.property "a" none none])
        (chain [.property "a" none (some ⟨none, none, some (-1)⟩)])).answer
          (.object [("a", .array [.bool true, .null])])).toList ∧
      (Node.part [0, 1] .null).LiesIn (.object [("a", .array [.bool true, .null])]) := by
  have selected : (joined .both (chain [.property "a" none none])
      (chain [.property "a" none (some ⟨none, none, some (-1)⟩)])).selection
        (.object [("a", .array [.bool true, .null])]) =
      .nodes [.part [0, 0] (.bool true), .part [0, 1] .null] := by cbv
  have member : Node.part [0, 1] .null ∈ ((joined .both (chain [.property "a" none none])
      (chain [.property "a" none (some ⟨none, none, some (-1)⟩)])).answer
        (.object [("a", .array [.bool true, .null])])).toList := by
    rw [answer_eq_selection, selected]
    exact .tail _ (.head _)
  exact ⟨rfl, member, (answer_distinct _ _).2.2 rfl _ member⟩

end JsonQuery
