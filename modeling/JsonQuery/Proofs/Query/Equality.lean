import JsonQuery.Proofs.Binary64.Comparing
import JsonQuery.Proofs.Query.LiteralText
import JsonQuery.Proofs.Query.Rereading
import Mathlib.Data.List.Forall2

/-! The equality test of expressions, which compares numbers as doubles do. Equal expressions
have equal filters at the same places, and equal filters are written with the same brackets. -/

namespace JsonQuery

theorem Text.isBracket_of_isNumeral {char : Char} (numeral : isNumeral char = true) :
    isBracket char = false :=
  isBracket_of_test numeral rfl rfl

namespace Literal

theorem beq_self {literal : Literal} (finite : literal.isFinite = true) :
    (literal == literal) = true := by
  cases literal with
  | undefined | null => rfl
  | bool value => cases value <;> rfl
  | string text => exact beq_self_eq_true text
  | number value =>
    cases value with
    | nan | infinite => cases finite
    | finite value =>
      have same : (Binary64.finite value == .finite value) = true :=
        Binary64.beq_iff_compare?.mpr (Binary64.compare?_self nofun)
      exact same

theorem brackets_written {literal : Literal} (plain : literal.isString = false) :
    Text.brackets literal.written = [] := by
  have none {literal : Literal} (finite : literal.isFinite = true)
      (plain : literal.isString = false) : Text.brackets literal.written = [] :=
    Text.brackets_of_plain fun char member =>
      Text.isBracket_of_isNumeral (isNumeral_of_mem_written finite plain char member)
  cases literal with
  | undefined | null | bool => exact none rfl rfl
  | string text => cases plain
  | number value =>
    cases value with
    | nan => decide
    | infinite negative => cases negative <;> decide
    | finite value => exact none rfl rfl

theorem brackets_of_beq {left right : Literal} (same : (left == right) = true) :
    Text.brackets left.written = Text.brackets right.written := by
  cases left with
  | string text =>
    cases right with
    | string other => rw [show text = other from eq_of_beq same]
    | undefined | null | bool | number => cases same
  | undefined | null | bool | number =>
    cases right with
    | string other => cases same
    | undefined | null | bool | number =>
      exact (brackets_written rfl).trans (brackets_written rfl).symm

end Literal

namespace Filter

theorem exists_of_beq_comparison {filter : Filter} {operator : Comparison} {path : Path}
    {value : Literal} (same : (filter == comparison operator path value) = true) :
    ∃ other, filter = comparison operator path other ∧ (other == value) = true := by
  cases filter with
  | existence other => cases same
  | comparison sign key other =>
    obtain ⟨signs, sides⟩ := Bool.and_eq_true_iff.mp same
    obtain ⟨keys, values⟩ := Bool.and_eq_true_iff.mp sides
    rw [eq_of_beq signs, eq_of_beq keys]
    exact ⟨other, rfl, values⟩

/-- Equal filters are written with the same brackets. -/
theorem brackets_of_beq {left right : Filter} (same : (left == right) = true) :
    Text.brackets left.written = Text.brackets right.written := by
  cases right with
  | existence path =>
    cases left with
    | existence other => rw [show other = path from eq_of_beq same]
    | comparison => cases same
  | comparison operator path value =>
    obtain ⟨other, rfl, values⟩ := exists_of_beq_comparison same
    have literals := Literal.brackets_of_beq values
    rw [written, written, Text.brackets_append, literals, ← Text.brackets_append]

end Filter

namespace Segment

private theorem toList_of_beq {left right : Option Filter} (same : (left == right) = true) :
    List.Forall₂ (fun one other => (one == other) = true) left.toList right.toList := by
  cases left with
  | none =>
    cases right with
    | none => exact .nil
    | some => cases same
  | some filter =>
    cases right with
    | none => cases same
    | some other => exact .cons same .nil

theorem filter?_of_beq {left right : Segment} (same : (left == right) = true) :
    (left.filter? == right.filter?) = true := by
  cases left <;> cases right <;> first | cases same | skip
  case property.property =>
    exact (Bool.and_eq_true_iff.mp (Bool.and_eq_true_iff.mp same).2).1
  all_goals exact same

end Segment

namespace Expression

private theorem filterMap_of_beq {left right : Chain} (same : (left == right) = true) :
    List.Forall₂ (fun one other => (one == other) = true) (left.filterMap Segment.filter?)
      (right.filterMap Segment.filter?) := by
  induction left generalizing right with
  | nil =>
    cases right with
    | nil => exact .nil
    | cons => cases same
  | cons segment rest ih =>
    cases right with
    | nil => cases same
    | cons other others =>
      obtain ⟨first, later⟩ := Bool.and_eq_true_iff.mp same
      have filters := Segment.toList_of_beq (Segment.filter?_of_beq first)
      have pairs := List.rel_append filters (ih later)
      rw [List.filterMap_eq_flatMap_toList, List.filterMap_eq_flatMap_toList] at pairs ⊢
      exact pairs

theorem filters_of_beq {left right : Expression} (same : (left == right) = true) :
    List.Forall₂ (fun one other => (one == other) = true) left.filters right.filters := by
  induction left generalizing right with
  | chain segments =>
    cases right with
    | chain others => exact filterMap_of_beq same
    | negation | joined => cases same
  | negation operand ih =>
    cases right with
    | negation other =>
      have operands : (operand == other) = true := same
      have pairs := ih operands
      exact pairs
    | chain | joined => cases same
  | joined connective one two oneIh twoIh =>
    cases right with
    | chain | negation => cases same
    | joined sign first second =>
      obtain ⟨ones, twos⟩ := Bool.and_eq_true_iff.mp (Bool.and_eq_true_iff.mp same).2
      rw [filters_joined, filters_joined]
      exact List.rel_append (oneIh ones) (twoIh twos)

theorem filters_mapFilters (change : Filter → Filter) (expression : Expression) :
    (expression.mapFilters change).filters = expression.filters.map change := by
  induction expression with
  | chain segments =>
    unfold filters
    rw [mapFilters, Expression.segments, Expression.segments, List.filterMap_map, List.map_filterMap]
    congr 1
    funext segment
    cases segment <;> rfl
  | negation operand ih => exact ih
  | joined connective left right leftIh rightIh =>
    rw [mapFilters, filters_joined, filters_joined, leftIh, rightIh, List.map_append]

private theorem mapFilter_beq {change : Filter → Filter} {segment : Segment}
    (equal : ∀ filter ∈ segment.filter?, (change filter == filter) = true) :
    (segment.mapFilter change == segment) = true := by
  have held (filter : Option Filter) (equal : ∀ value ∈ filter, (change value == value) = true) :
      (filter.map change == filter) = true := by
    cases filter with
    | none => rfl
    | some value => exact equal value rfl
  cases segment with
  | property name filter slice =>
    exact Bool.and_eq_true_iff.mpr ⟨beq_self_eq_true name,
      Bool.and_eq_true_iff.mpr ⟨held filter equal, beq_self_eq_true slice⟩⟩
  | wildcard filter | deepWildcard filter => exact held filter equal

private theorem map_beq {change : Filter → Filter} {chain : Chain}
    (equal : ∀ segment ∈ chain, (segment.mapFilter change == segment) = true) :
    (chain.map (Segment.mapFilter change) == chain) = true := by
  induction chain with
  | nil => rfl
  | cons segment rest ih =>
    obtain ⟨first, later⟩ := List.forall_mem_cons.mp equal
    exact Bool.and_eq_true_iff.mpr ⟨first, ih later⟩

theorem mapFilters_beq_iff {change : Filter → Filter} {expression : Expression} :
    (expression.mapFilters change == expression) = true ↔
      ∀ filter ∈ expression.filters, (change filter == filter) = true := by
  constructor
  · intro same
    have pairs := filters_of_beq same
    rw [filters_mapFilters, List.forall₂_map_left_iff] at pairs
    exact List.forall₂_same.mp pairs
  · intro equal
    induction expression with
    | chain segments =>
      have chains := map_beq fun segment member =>
        mapFilter_beq fun filter held => equal filter (mem_filters member held)
      exact chains
    | negation operand ih => exact ih equal
    | joined connective left right leftIh rightIh =>
      rw [filters_joined, List.forall_mem_append] at equal
      exact Bool.and_eq_true_iff.mpr ⟨beq_self_eq_true connective,
        Bool.and_eq_true_iff.mpr ⟨leftIh equal.1, rightIh equal.2⟩⟩

end Expression

end JsonQuery
