import JsonQuery.Proofs.Query.Completeness
import JsonQuery.Proofs.Query.Printing

/-! What the text of an expression reads as: the expression with each filter read again from
its own text. The tokens that it is written as derive it, and the added parentheses nest less
deeply than it is high. -/

namespace JsonQuery

/-- The filter that the text of a filter reads as. -/
def Filter.reread (filter : Filter) : Filter := read filter.written

namespace Segment

def mapFilter (change : Filter → Filter) : Segment → Segment
  | property name filter slice => property name (filter.map change) slice
  | wildcard filter => wildcard (filter.map change)
  | deepWildcard filter => deepWildcard (filter.map change)

end Segment

namespace Expression

def mapFilters (change : Filter → Filter) : Expression → Expression
  | chain segments => chain (segments.map (Segment.mapFilter change))
  | negation operand => negation (operand.mapFilters change)
  | joined connective left right =>
    joined connective (left.mapFilters change) (right.mapFilters change)

theorem height_mapFilters (change : Filter → Filter) (expression : Expression) :
    (expression.mapFilters change).height = expression.height := by
  induction expression with
  | chain segments => rfl
  | negation operand ih => rw [mapFilters, height, height, ih]
  | joined connective left right leftIh rightIh => rw [mapFilters, height, height, leftIh, rightIh]

end Expression

theorem Token.ofBracket_filter {filter : Filter} (plain : Slice.read? filter.written = none) :
    ofBracket filter.written = .filter (String.ofList filter.written) := by
  unfold ofBracket
  rw [plain]

namespace SegmentRun

variable {tokens : List Token} {segment : Segment}

theorem filterTokens (run : SegmentRun tokens segment) {held : Option Filter}
    (plain : ∀ filter ∈ held, Slice.read? (Filter.written filter) = none) :
    SegmentRun (tokens ++ Segment.filterTokens held)
      ((held.map Filter.reread).elim segment segment.withFilter) := by
  cases held with
  | none =>
    rw [show Segment.filterTokens none = [] from rfl, List.append_nil]
    exact run
  | some filter =>
    have follows : (Token.filter (String.ofList filter.written)).followsWildcard = true := rfl
    have extended := run.follow follows
    rw [Token.filter?, String.toList_ofList] at extended
    rw [show Segment.filterTokens (some filter) = [Token.ofBracket filter.written] from rfl,
      Token.ofBracket_filter (plain filter rfl)]
    exact extended

theorem sliceTokens {name : String} {filter : Option Filter}
    (run : SegmentRun tokens (.property name filter none)) (slice : Option Slice) :
    SegmentRun (tokens ++ slice.toList.map Token.slice) (.property name filter slice) := by
  cases slice with
  | none =>
    rw [show (none : Option Slice).toList.map Token.slice = [] from rfl, List.append_nil]
    exact run
  | some value => exact run.slice value

end SegmentRun

theorem Segment.run_tokens {segment : Segment}
    (plain : ∀ filter ∈ segment.filter?, Slice.read? (Filter.written filter) = none) :
    SegmentRun segment.tokens (segment.mapFilter Filter.reread) := by
  cases segment with
  | property name filter slice =>
    have start := SegmentRun.property name (List.forall_mem_nil _)
    have filtered := start.filterTokens plain
    cases filter with
    | none => exact filtered.sliceTokens slice
    | some filter => exact filtered.sliceTokens slice
  | wildcard filter =>
    have start := SegmentRun.wildcard (List.forall_mem_nil _)
    have filtered := start.filterTokens plain
    cases filter with
    | none => exact filtered
    | some filter => exact filtered
  | deepWildcard filter =>
    have start := SegmentRun.deepWildcard (List.forall_mem_nil _)
    have filtered := start.filterTokens plain
    cases filter with
    | none => exact filtered
    | some filter => exact filtered

/-- The tokens of a chain, behind those of another, are a run of both chains. -/
theorem Chain.run_tokens {chain : Chain}
    (plain : ∀ segment ∈ chain, ∀ filter ∈ segment.filter?,
      Slice.read? (Filter.written filter) = none)
    {before : List Token} {done : Chain} (run : ChainRun before done) :
    ChainRun (before ++ chain.tokens) (done ++ chain.map (Segment.mapFilter Filter.reread)) := by
  induction chain generalizing before done with
  | nil =>
    rw [show Chain.tokens [] = [] from rfl, List.append_nil, List.map_nil, List.append_nil]
    exact run
  | cons segment others ih =>
    obtain ⟨first, later⟩ := List.forall_mem_cons.mp plain
    have taken := ChainRun.segment run (Segment.run_tokens first)
    cases others with
    | nil =>
      rw [tokens_singleton]
      exact taken
    | cons next others =>
      have whole := ih later taken.dot
      rw [tokens_cons_cons]
      simpa using whole

theorem Expression.derives_tokens {expression : Expression}
    (plain : ∀ segment ∈ expression.segments, ∀ filter ∈ segment.filter?,
      Slice.read? (Filter.written filter) = none) :
    ∃ depth, Derives .operand expression.tokens (expression.mapFilters Filter.reread) depth ∧
      depth + 1 = expression.height := by
  induction expression with
  | chain segments =>
    have run := Chain.run_tokens plain (.dots (List.forall_mem_nil _))
    exact ⟨0, .chain run, rfl⟩
  | negation operand ih =>
    obtain ⟨depth, derives, within⟩ := ih plain
    refine ⟨depth + 1, .negation derives, ?_⟩
    rw [height, within]
  | joined connective left right leftIh rightIh =>
    obtain ⟨leftPlain, rightPlain⟩ := List.forall_mem_append.mp plain
    obtain ⟨leftDepth, leftDerives, leftWithin⟩ := leftIh leftPlain
    obtain ⟨rightDepth, rightDerives, rightWithin⟩ := rightIh rightPlain
    have deepest : max leftDepth rightDepth + 1 + 1 = (joined connective left right).height := by
      rw [height]
      omega
    have spelled : (joined connective left right).tokens = .opening ::
        ((left.tokens ++ connective.token :: right.tokens) ++ [.closing]) := by
      simp [tokens]
    rw [spelled]
    cases connective with
    | both =>
      have inner := Derives.conjunction (.both (.single leftDerives) rightDerives)
      exact ⟨_, .group inner, deepest⟩
    | either =>
      have inner := Derives.either (.conjunction (.single leftDerives)) (.single rightDerives)
      exact ⟨_, .group inner, deepest⟩

namespace Expression

variable {expression : Expression}

theorem mem_filters {segment : Segment} {filter : Filter} (member : segment ∈ expression.segments)
    (held : filter ∈ segment.filter?) : filter ∈ expression.filters :=
  List.mem_filterMap.mpr ⟨segment, member, held⟩

theorem mem_names {segment : Segment} {name : String} (member : segment ∈ expression.segments)
    (held : name ∈ segment.name?) : name ∈ expression.names :=
  List.mem_filterMap.mpr ⟨segment, member, held⟩

theorem readable_of_names_filters
    (named : ∀ name ∈ expression.names, Token.isName name.toList = true)
    (closed : ∀ filter ∈ expression.filters, Text.Balanced filter.written) :
    ∀ segment ∈ expression.segments, segment.Readable :=
  fun _ member => ⟨fun name held => named name (mem_names member held),
    fun filter held => closed filter (mem_filters member held)⟩

theorem scan_written_eq_tokens
    (named : ∀ name ∈ expression.names, Token.isName name.toList = true)
    (closed : ∀ filter ∈ expression.filters, Text.Balanced filter.written) :
    Token.scan expression.written = expression.tokens := by
  have ends : Token.Separates [] := by
    intro char first
    cases first
  have whole := scan_written (readable_of_names_filters named closed) ends
  rwa [List.append_nil, Token.scan_nil, List.append_nil] at whole

/-- A written expression reads as itself with its filters read again. -/
theorem read_written_eq_mapFilters (fits : expression.height ≤ maxNesting)
    (named : ∀ name ∈ expression.names, Token.isName name.toList = true)
    (closed : ∀ filter ∈ expression.filters, Text.Balanced filter.written)
    (plain : ∀ filter ∈ expression.filters, Slice.read? filter.written = none) :
    Expression.read (String.ofList expression.written) =
      .ok (expression.mapFilters Filter.reread) := by
  obtain ⟨depth, derives, within⟩ := derives_tokens fun _ member filter held =>
    plain filter (mem_filters member held)
  have settles := ofTokens_settles (.conjunction (.single derives))
  have high := height_mapFilters Filter.reread expression
  rw [Expression.read, String.toList_ofList, scan_written_eq_tokens named closed]
  exact settles.1 ⟨by omega, by omega⟩

end Expression

end JsonQuery
