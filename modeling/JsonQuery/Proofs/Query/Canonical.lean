import JsonQuery.Proofs.Query.Unclosed
import Mathlib

/-! Whether the text of an expression that was read is canonical: it reads back as an equal
expression exactly if each filter closes its brackets, is not written like a slice and cannot
be taken for a comparison with another operator. -/

namespace JsonQuery

/-- What the text of a filter needs for an expression with the filter to read back. -/
structure Filter.Canonical (filter : Filter) : Prop where
  closed : Text.Balanced filter.written
  noSlice : Slice.read? filter.written = none
  clear : ¬ filter.Confusable

theorem Segment.filterMap_tokens (segment : Segment) :
    segment.tokens.filterMap Token.filter? =
      segment.filter?.toList.filterMap fun filter => (Token.ofBracket filter.written).filter? := by
  have ofFilter (held : Option Filter) :
      (filterTokens held).filterMap Token.filter? =
        held.toList.filterMap fun filter => (Token.ofBracket filter.written).filter? :=
    List.filterMap_map
  have ofSlice (held : Option Slice) :
      (held.toList.map Token.slice).filterMap Token.filter? = [] := by
    cases held <;> rfl
  cases segment with
  | property name filter slice =>
    have own : (Token.property name).filter? = none := rfl
    rw [tokens, List.filterMap_cons_none own, List.filterMap_append, ofFilter, ofSlice,
      List.append_nil]
    rfl
  | wildcard filter | deepWildcard filter => exact ofFilter filter

theorem Chain.filterMap_tokens (chain : Chain) :
    chain.tokens.filterMap Token.filter? = (chain.filterMap Segment.filter?).filterMap
      fun filter => (Token.ofBracket filter.written).filter? := by
  induction chain with
  | nil => rfl
  | cons segment others ih =>
    rw [List.filterMap_eq_flatMap_toList Segment.filter?, List.flatMap_cons,
      ← List.filterMap_eq_flatMap_toList, List.filterMap_append, ← ih, ← segment.filterMap_tokens]
    cases others with
    | nil => rw [tokens_singleton, show Chain.tokens [] = [] from rfl, List.filterMap_nil,
        List.append_nil]
    | cons next others =>
      have dot : Token.dot.filter? = none := rfl
      rw [tokens_cons_cons, List.filterMap_append, List.filterMap_cons_none dot]

namespace Expression

variable {text : String} {expression again : Expression}

/-- The filter tokens that an expression is written as: those of its filters that are not
written like slices. -/
theorem filterMap_tokens (expression : Expression) :
    expression.tokens.filterMap Token.filter? =
      expression.filters.filterMap fun filter => (Token.ofBracket filter.written).filter? := by
  induction expression with
  | chain segments => exact Chain.filterMap_tokens segments
  | negation operand ih => exact ih
  | joined connective left right leftIh rightIh =>
    have opening : Token.opening.filter? = none := rfl
    have sign : connective.token.filter? = none := by cases connective <;> rfl
    have closing : [Token.closing].filterMap Token.filter? = [] := rfl
    rw [tokens, List.filterMap_cons_none opening, List.filterMap_append,
      List.filterMap_cons_none sign, List.filterMap_append, closing, List.append_nil, leftIh,
      rightIh, filters_joined, List.filterMap_append]

theorem FromText.nested (parsed : expression.FromText) :
    ∀ filter ∈ expression.filters, filter.Nested := by
  intro filter member
  obtain ⟨content, left, rfl, nested⟩ := parsed.read filter member
  exact Filter.nested_read nested

theorem closed_of_reads_back (parsed : expression.FromText)
    (reads : Expression.read (String.ofList expression.written) = .ok again)
    (same : (again == expression) = true) :
    ∀ filter ∈ expression.filters, Text.Balanced filter.written := by
  have total := nesting?_written parsed.named parsed.nested
  have scanned := Token.totalUnclosed_scan_le total
  rw [Expression.read, String.toList_ofList] at reads
  have kept := Filter.totalUnclosed_le_of_sublist (filters_sublist_of_ofTokens reads)
  have equal := Filter.totalUnclosed_of_beq (filters_of_beq same)
  have none : Filter.totalUnclosed expression.filters = 0 := by omega
  intro filter member
  have own : filter.unclosed = 0 :=
    List.sum_eq_zero_iff_forall_eq_nat.mp none _ (List.mem_map_of_mem member)
  have nested : Text.nesting? 0 filter.written = some filter.unclosed := parsed.nested filter member
  rwa [own] at nested

theorem noSlice_of_reads_back (parsed : expression.FromText)
    (closed : ∀ filter ∈ expression.filters, Text.Balanced filter.written)
    (reads : Expression.read (String.ofList expression.written) = .ok again)
    (same : (again == expression) = true) :
    ∀ filter ∈ expression.filters, Slice.read? filter.written = none := by
  rw [Expression.read, String.toList_ofList, scan_written_eq_tokens parsed.named closed] at reads
  have few := (filters_sublist_of_ofTokens reads).length_le
  rw [filterMap_tokens, List.length_filterMap_eq_countP, (filters_of_beq same).length_eq] at few
  have all := List.countP_eq_length.mp (Nat.le_antisymm List.countP_le_length few)
  intro filter member
  have found := all filter member
  cases slice : Slice.read? filter.written with
  | none => rfl
  | some value =>
    rw [Token.ofBracket, slice] at found
    cases found

/-- What was read of a text reads back from its own text, as an equal expression, exactly if
all its filters are canonical. -/
theorem reads_back_iff (parsed : Expression.read text = .ok expression) :
    (∃ again, Expression.read (String.ofList expression.written) = .ok again ∧
        (again == expression) = true) ↔
      ∀ filter ∈ expression.filters, filter.Canonical := by
  have well := fromText_of_read parsed
  have clear_iff : ∀ filter ∈ expression.filters,
      (filter.reread == filter) = true ↔ ¬ filter.Confusable := by
    intro filter member
    obtain ⟨content, _, rfl, _⟩ := well.read filter member
    exact Filter.reread_beq_iff content
  constructor
  · rintro ⟨again, reads, same⟩
    have closed := closed_of_reads_back well reads same
    have noSlice := noSlice_of_reads_back well closed reads same
    have changed := read_written_eq_mapFilters well.fits well.named closed noSlice
    obtain rfl := Except.ok.inj (changed.symm.trans reads)
    have equal := mapFilters_beq_iff.mp same
    intro filter member
    exact ⟨closed filter member, noSlice filter member,
      (clear_iff filter member).mp (equal filter member)⟩
  · intro canonical
    refine ⟨_, read_written_eq_mapFilters well.fits well.named
      (fun filter member => (canonical filter member).closed)
      (fun filter member => (canonical filter member).noSlice), mapFilters_beq_iff.mpr ?_⟩
    intro filter member
    exact (clear_iff filter member).mpr (canonical filter member).clear

/-- A comparison whose sides are trimmed and whose literal gains quotes. -/
theorem reads_back_quoted :
    ∃ again, Expression.read (String.ofList (chain [.property "x"
        (some (.comparison .less ⟨"a.b"⟩ (.string "c d"))) none]).written) = .ok again ∧
      (again == chain [.property "x" (some (.comparison .less ⟨"a.b"⟩ (.string "c d"))) none]) =
        true := by
  have parsed : Expression.read "x[ a.b < c d ]" = .ok (chain [.property "x"
      (some (.comparison .less ⟨"a.b"⟩ (.string "c d"))) none]) := by
    cbv
  refine (reads_back_iff parsed).mpr fun filter member => ?_
  obtain rfl := List.mem_singleton.mp member
  refine ⟨by decide, by cbv, fun confusable => ?_⟩
  cases confusable with
  | joined precedes nonempty ends =>
    obtain ⟨equal, _⟩ := Comparison.joined_cases precedes ends
    cases equal
  | @trailing earlier _ _ _ start precedes ends pathFree startFree =>
    have last := congrArg List.getLast? ends
    cases earlier <;> simp [Comparison.written, Comparison.symbol] at last

/-- The blank between a sign and an equality is not written, so that they read as one operator. -/
theorem not_reads_back_parted :
    Expression.read "x[a > =b]" = .ok (chain [.property "x"
        (some (.comparison .equal ⟨"a >"⟩ (.string "b"))) none]) ∧
      ∀ again, Expression.read (String.ofList (chain [.property "x"
          (some (.comparison .equal ⟨"a >"⟩ (.string "b"))) none]).written) = .ok again →
        (again == chain [.property "x" (some (.comparison .equal ⟨"a >"⟩ (.string "b"))) none]) =
          false := by
  refine ⟨by cbv, fun again reads => ?_⟩
  have other : Expression.read (String.ofList (chain [.property "x"
      (some (.comparison .equal ⟨"a >"⟩ (.string "b"))) none]).written) = .ok (chain [.property "x"
        (some (.comparison .greaterOrEqual ⟨"a"⟩ (.string "b"))) none]) := by
    cbv
  obtain rfl := Except.ok.inj (other.symm.trans reads)
  rfl

end Expression

end JsonQuery
