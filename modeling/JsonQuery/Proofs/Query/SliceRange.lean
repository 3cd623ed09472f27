import JsonQuery.Proofs.Query.SliceIndices
import Mathlib.Algebra.Ring.Divisibility.Basic
import Mathlib.Data.Int.ModEq
import Mathlib.Data.List.Sort

/-! Which indices a slice addresses: those of the array that lie between the two ends of the slice
and differ from the start by a multiple of the step. A start that lies before the array is brought
into it by whole steps, so that the others keep their distance from it. -/

namespace JsonQuery.Slice

/-- The counter takes the values below the bound that lie whole strides behind the first one. -/
theorem mem_climb_iff {stride bound counter index : Int} (positive : 0 < stride) :
    index ∈ climb stride bound counter ↔
      counter ≤ index ∧ index < bound ∧ stride ∣ index - counter := by
  fun_induction climb stride bound counter with
  | case1 counter climbs ih =>
    have shifted : stride ∣ index - (counter + stride) ↔ stride ∣ index - counter := by
      rw [← Int.sub_sub]
      exact dvd_sub_self_right
    rw [List.mem_cons, ih, shifted]
    constructor
    · rintro (rfl | ⟨above, below, divides⟩)
      · refine ⟨Int.le_refl _, climbs.2, ?_⟩
        rw [Int.sub_self]
        exact Int.dvd_zero _
      · exact ⟨by omega, below, divides⟩
    · rintro ⟨above, below, divides⟩
      by_cases first : index = counter
      · exact .inl first
      · have apart := Int.le_of_dvd (by omega) divides
        exact .inr ⟨by omega, below, divides⟩
  | case2 counter stuck =>
    refine iff_of_false List.not_mem_nil ?_
    rintro ⟨above, below, _⟩
    exact stuck ⟨positive, by omega⟩

/-- The jump ends at the first place behind the front of the array that it can end at. -/
theorem jump_lands {stride : Int} (positive : 0 < stride) (origin : Int) :
    0 ≤ origin + jump origin stride ∧ origin + jump origin stride < stride ∧
      stride ∣ jump origin stride := by
  have below := Int.ediv_mul_le (-origin + stride - 1) (by omega : stride ≠ 0)
  have above := Int.lt_ediv_add_one_mul_self (-origin + stride - 1) positive
  rw [Int.add_mul, Int.one_mul] at above
  unfold jump
  exact ⟨by omega, by omega, Int.dvd_mul_left _ _⟩

variable {slice : Slice} {length : Nat}

/-- Entering the array late leaves out nothing in it and keeps the distances. -/
theorem entry_le_iff (positive : 0 < slice.stride) (length : Int) {index : Int}
    (inside : 0 ≤ index) :
    slice.entry length ≤ index ∧ slice.stride ∣ index - slice.entry length ↔
      slice.origin length ≤ index ∧ slice.stride ∣ index - slice.origin length := by
  unfold entry
  dsimp only
  split
  · obtain ⟨_, near, whole⟩ := jump_lands positive (slice.origin length)
    have shifted : slice.stride ∣
        index - (slice.origin length + jump (slice.origin length) slice.stride) ↔
        slice.stride ∣ index - slice.origin length := by
      rw [← Int.sub_sub]
      exact dvd_sub_left whole
    rw [shifted]
    refine and_congr_left fun divides => iff_of_true ?_ (by omega)
    -- A multiple of the stride that lies before the place of entry is at least a stride before it.
    by_contra before
    have apart := Int.le_of_dvd (by omega) ((Int.dvd_neg).mpr (shifted.mpr divides))
    omega
  · exact Iff.rfl

/-- The indices of an array that lie between the two ends of a slice and whole strides behind its
start, in increasing order. -/
def members (slice : Slice) (length : Nat) : List Nat :=
  (List.range length).filter fun index : Nat =>
    slice.origin length ≤ index ∧ (index : Int) < slice.bound length ∧
      (index : Int) ≡ slice.origin length [ZMOD slice.stride]

theorem lt_of_mem_members {index : Nat} (member : index ∈ slice.members length) : index < length :=
  List.mem_range.mp (List.mem_filter.mp member).1

theorem climbing_eq_members (positive : 0 < slice.stride) (short : length < 2 ^ 64) :
    (climb slice.stride (slice.bound length) (slice.entry length)).filterMap toIndex? =
      slice.members length := by
  have climbs := pairwise_climbing slice.stride (slice.bound length) (slice.entry length)
  refine climbs.eq_of_mem_iff (List.pairwise_lt_range.filter _) fun index => ?_
  have nonneg : (0 : Int) ≤ index := Int.natCast_nonneg index
  have within : slice.bound length ≤ length := Int.min_le_right _ _
  have taken : index ∈ (climb slice.stride (slice.bound length) (slice.entry length)).filterMap
      toIndex? ↔ (index : Int) ∈ climb slice.stride (slice.bound length) (slice.entry length) ∧
        index < 2 ^ 64 := by
    simp [List.mem_filterMap, toIndex?_eq_some_iff]
  have entered := entry_le_iff positive length nonneg
  rw [taken, mem_climb_iff positive, members, List.mem_filter, List.mem_range, decide_eq_true_eq,
    Int.modEq_comm, Int.modEq_iff_dvd]
  constructor
  · rintro ⟨⟨above, below, divides⟩, _⟩
    obtain ⟨behind, whole⟩ := entered.mp ⟨above, divides⟩
    exact ⟨by omega, behind, below, whole⟩
  · rintro ⟨inside, behind, below, whole⟩
    obtain ⟨above, divides⟩ := entered.mpr ⟨behind, whole⟩
    exact ⟨⟨above, below, divides⟩, by omega⟩

theorem indices_eq_members (slice : Slice) (short : length < 2 ^ 64) :
    slice.indices length = if slice.signedStep = 0 then []
      else if slice.signedStep < 0 then (slice.members length).reverse
      else slice.members length := by
  unfold indices
  by_cases zero : slice.signedStep = 0
  · rw [if_pos zero, if_pos zero]
  · have positive : 0 < slice.stride := Int.natCast_pos.mpr (Int.natAbs_pos.mpr zero)
    rw [if_neg zero, if_neg zero, climbing_eq_members positive short]

theorem lt_of_mem_indices (short : length < 2 ^ 64) {index : Nat}
    (member : index ∈ slice.indices length) : index < length := by
  rw [indices_eq_members slice short] at member
  split at member
  · cases member
  · split at member
    · exact lt_of_mem_members (List.mem_reverse.mp member)
    · exact lt_of_mem_members member

/-- A slice addresses nothing with a step of zero, and otherwise exactly the indices of the array
that lie between its two ends and differ from the start by a multiple of the step, in increasing
order or in decreasing order if the step is negative. So every index is inside the array and comes
once, and the slice of a list has the elements at all of these indices. -/
theorem indices_eq_progression (slice : Slice) {length : Nat} (short : length < 2 ^ 64) :
    let fromEnd (index : Int) : Int := if index < 0 then index + length else index
    let start := fromEnd (slice.start.elim 0 Int64.toInt)
    let stop := min (length : Int) (fromEnd (slice.stop.elim length Int64.toInt))
    let step := slice.step.elim 1 Int64.toInt
    let progression := (List.range length).filter fun index : Nat =>
      start ≤ index ∧ (index : Int) < stop ∧ (index : Int) ≡ start [ZMOD |step|]
    slice.indices length =
        (if step = 0 then [] else if step < 0 then progression.reverse else progression) ∧
      (∀ index ∈ slice.indices length, index < length) ∧ (slice.indices length).Nodup ∧
      ∀ {α : Type} (items : List α), items.length = length →
        (slice.apply items).map some = (slice.indices length).map (items[·]?) := by
  intro fromEnd start stop step progression
  have same : slice.members length = progression := by
    unfold members
    rw [bound, Int.min_comm, stride, Int.natCast_natAbs]
    rfl
  refine ⟨same ▸ indices_eq_members slice short, fun index => lt_of_mem_indices short,
    slice.nodup_indices length, ?_⟩
  rintro α items rfl
  rw [apply, List.map_filterMap, ← List.filterMap_eq_map]
  refine List.filterMap_congr fun index member => ?_
  change items[index]?.map some = some items[index]?
  rw [List.getElem?_eq_getElem (lt_of_mem_indices short member)]
  rfl

/-- The start is two indices before the array, and a stride of two keeps its distance from it. -/
theorem indices_eq_progression_entered :
    5 < 2 ^ 64 ∧ (⟨some (-7), none, some (-2)⟩ : Slice).indices 5 = [4, 2, 0] := by
  refine ⟨by decide, ?_⟩
  rw [(indices_eq_progression ⟨some (-7), none, some (-2)⟩ (by decide : 5 < 2 ^ 64)).1]
  decide

end JsonQuery.Slice
