import JsonQuery.Proofs.Query.Rereading
import Mathlib

/-! Written expressions read back if their filters do. -/

namespace JsonQuery.Expression

variable {expression : Expression}

private theorem mapFilter_eq_self {change : Filter → Filter} {segment : Segment}
    (fixed : ∀ filter ∈ segment.filter?, change filter = filter) :
    segment.mapFilter change = segment := by
  have held (filter : Option Filter) (fixed : ∀ value ∈ filter, change value = value) :
      filter.map change = filter := by
    cases filter with
    | none => rfl
    | some value => exact congrArg some (fixed value rfl)
  cases segment with
  | property name filter slice => rw [Segment.mapFilter, held filter fixed]
  | wildcard filter | deepWildcard filter => rw [Segment.mapFilter, held filter fixed]

theorem mapFilters_eq_self {change : Filter → Filter}
    (fixed : ∀ filter ∈ expression.filters, change filter = filter) :
    expression.mapFilters change = expression := by
  induction expression with
  | chain segments =>
    have same : segments.map (Segment.mapFilter change) = segments := by
      refine List.map_congr_left (fun segment member => ?_) |>.trans (List.map_id segments)
      exact mapFilter_eq_self fun filter held => fixed filter (mem_filters member held)
    rw [mapFilters, same]
  | negation operand ih => rw [mapFilters, ih fixed]
  | joined connective left right leftIh rightIh =>
    rw [filters_joined, List.forall_mem_append] at fixed
    rw [mapFilters, leftIh fixed.1, rightIh fixed.2]

/-- Reading undoes writing: an expression within the bound of height reads back, provided
that its names are names and that each filter reads back on its own, closes its brackets and
is not written like a slice. -/
theorem read_written (fits : expression.height ≤ maxNesting)
    (named : ∀ name ∈ expression.names, Token.isName name.toList = true)
    (fixed : ∀ filter ∈ expression.filters, Filter.read filter.written = filter)
    (closed : ∀ filter ∈ expression.filters, Text.Balanced filter.written)
    (plain : ∀ filter ∈ expression.filters, Slice.read? filter.written = none) :
    Expression.read (String.ofList expression.written) = .ok expression := by
  have same : expression.mapFilters Filter.reread = expression := mapFilters_eq_self fixed
  rw [read_written_eq_mapFilters fits named closed plain, same]

/-- An empty operand beside a property whose filter has brackets of its own, with a slice. -/
theorem read_written_conjunction :
    Expression.read (String.ofList (joined .both (negation (chain [])) (chain [.property "a"
      (some (.comparison .equal ⟨"b"⟩ (.string "[0]"))) (some ⟨none, some (-1), none⟩)])).written) =
        .ok (joined .both (negation (chain [])) (chain [.property "a"
          (some (.comparison .equal ⟨"b"⟩ (.string "[0]"))) (some ⟨none, some (-1), none⟩)])) := by
  refine read_written (by decide) ?_ ?_ ?_ ?_
  · intro name member
    obtain rfl := List.mem_singleton.mp member
    decide
  · intro filter member
    obtain rfl := List.mem_singleton.mp member
    cbv
  · intro filter member
    obtain rfl := List.mem_singleton.mp member
    decide
  · intro filter member
    obtain rfl := List.mem_singleton.mp member
    cbv

end JsonQuery.Expression
