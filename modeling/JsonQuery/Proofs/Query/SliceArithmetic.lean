import JsonQuery.Proofs.Query.SliceRange
import Mathlib.Order.Bounds.Defs

/-! The size of what is computed for the indices of a slice. The same computation in which every
value has to keep within a limit, and every counter has to be an index, gives the same indices as
soon as the limit is `2^65`; so it is exact in signed arithmetic of more than 66 bits. -/

namespace JsonQuery.Slice

/-- A computed value, unless it is beyond the limit on either side of zero. -/
def within? (limit value : Int) : Option Int :=
  if -limit ≤ value ∧ value ≤ limit then some value else none

def normalizeWithin? (limit index length : Int) : Option Int :=
  if index < 0 then within? limit (index + length) else some index

def originWithin? (limit : Int) (slice : Slice) (length : Int) : Option Int := do
  let start ← within? limit (slice.start.elim 0 Int64.toInt)
  normalizeWithin? limit start length

def boundWithin? (limit : Int) (slice : Slice) (length : Int) : Option Int := do
  let stop ← within? limit (slice.stop.elim length Int64.toInt)
  let bound ← normalizeWithin? limit stop length
  return min bound length

/-- The jump into the array, computed within a limit; division cuts off towards zero. -/
def jumpWithin? (limit origin stride : Int) : Option Int := do
  let distance ← within? limit (-origin)
  let raised ← within? limit (distance + stride)
  let rounded ← within? limit (raised - 1)
  let rounds ← within? limit (rounded.tdiv stride)
  within? limit (rounds * stride)

def entryWithin? (limit origin stride : Int) : Option Int :=
  if origin < 0 then do
    let jump ← jumpWithin? limit origin stride
    within? limit (origin + jump)
  else some origin

/-- The indices that the counter takes while it climbs within a limit, its last step past the bound
included. No counter is left out: one that is no index is a failure. -/
def climbWithin? (limit stride bound counter : Int) : Option (List Nat) :=
  if 0 < stride ∧ counter < bound then do
    let index ← toIndex? counter
    let _ ← within? limit (counter + stride)
    let later ← climbWithin? limit stride bound (counter + stride)
    return index :: later
  else some []
termination_by (bound - counter).toNat
decreasing_by omega

def indicesWithin? (limit : Int) (slice : Slice) (length : Nat) : Option (List Nat) := do
  let step ← within? limit slice.signedStep
  if step = 0 then return []
  let length ← within? limit length
  let stride ← within? limit step.natAbs
  let origin ← originWithin? limit slice length
  let bound ← boundWithin? limit slice length
  let entry ← entryWithin? limit origin stride
  let climbing ← climbWithin? limit stride bound entry
  return if step < 0 then climbing.reverse else climbing

theorem within?_eq_some {limit value : Int} (above : -limit ≤ value) (below : value ≤ limit) :
    within? limit value = some value :=
  if_pos ⟨above, below⟩

section Ranges

variable {slice : Slice} {length : Nat}

theorem elim_toInt_range (value : Option Int64) (default : Int) (above : -2 ^ 63 ≤ default) :
    -2 ^ 63 ≤ value.elim default Int64.toInt ∧
      value.elim default Int64.toInt < max (2 ^ 63) (default + 1) := by
  cases value with
  | none => rw [Option.elim_none]; omega
  | some value =>
    have least := value.le_toInt
    have greatest := value.toInt_lt
    rw [Option.elim_some]
    omega

theorem signedStep_range (slice : Slice) :
    -2 ^ 63 ≤ slice.signedStep ∧ slice.signedStep < 2 ^ 63 := by
  have range := elim_toInt_range slice.step 1 (by decide)
  unfold signedStep
  omega

theorem stride_le (slice : Slice) : slice.stride ≤ 2 ^ 63 := by
  have range := slice.signedStep_range
  unfold stride
  omega

theorem normalize_range {index : Int} (short : length < 2 ^ 64) (above : -2 ^ 63 ≤ index)
    (below : index < 2 ^ 64) :
    -2 ^ 63 ≤ normalize index length ∧ normalize index length < 2 ^ 64 := by
  unfold normalize
  split <;> omega

theorem origin_range (slice : Slice) (short : length < 2 ^ 64) :
    -2 ^ 63 ≤ slice.origin length ∧ slice.origin length < 2 ^ 64 := by
  have range := elim_toInt_range slice.start 0 (by decide)
  exact normalize_range short range.1 (by omega)

theorem entry_range (positive : 0 < slice.stride) (short : length < 2 ^ 64) :
    0 ≤ slice.entry length ∧ slice.entry length < 2 ^ 64 := by
  have range := slice.origin_range short
  have strides := slice.stride_le
  unfold entry
  dsimp only
  split
  · have lands := jump_lands positive (slice.origin length)
    omega
  · omega

theorem mem_climb_range (positive : 0 < slice.stride) (short : length < 2 ^ 64) {counter : Int}
    (member : counter ∈ climb slice.stride (slice.bound length) (slice.entry length)) :
    0 ≤ counter ∧ counter < length := by
  obtain ⟨above, below, _⟩ := (mem_climb_iff positive).mp member
  have entered := entry_range positive short
  have within : slice.bound length ≤ length := Int.min_le_right _ _
  omega

theorem isLeast_entry (positive : 0 < slice.stride) (short : length < 2 ^ 64) :
    IsLeast {index : Int | 0 ≤ index ∧
      ∃ rounds : Nat, index = slice.origin length + rounds * slice.stride}
      (slice.entry length) := by
  have nonneg := (entry_range positive short).1
  constructor
  · obtain ⟨behind, rounds, whole⟩ :=
      (entry_le_iff positive length nonneg).mp ⟨Int.le_refl _, by simp⟩
    have forwards : 0 ≤ rounds := by
      refine Int.nonneg_of_mul_nonneg_right ?_ positive
      rw [← whole]
      omega
    refine ⟨nonneg, rounds.toNat, ?_⟩
    rw [Int.toNat_of_nonneg forwards, Int.mul_comm, ← whole]
    omega
  · rintro index ⟨inside, rounds, rfl⟩
    have forwards := Int.mul_nonneg (Int.natCast_nonneg rounds) (Int.le_of_lt positive)
    exact ((entry_le_iff positive length inside).mpr ⟨by omega, by simp⟩).1

end Ranges

section Within

variable {limit : Int}

theorem normalizeWithin?_eq {index length : Int} (above : -limit ≤ normalize index length)
    (below : normalize index length ≤ limit) :
    normalizeWithin? limit index length = some (normalize index length) := by
  unfold normalizeWithin? normalize at *
  split
  · rename_i negative
    rw [if_pos negative] at above below
    exact within?_eq_some above below
  · rfl

section Ends

variable {slice : Slice} {length : Nat}

theorem originWithin?_eq (wide : 2 ^ 65 ≤ limit) (short : length < 2 ^ 64) :
    originWithin? limit slice length = some (slice.origin length) := by
  have given := elim_toInt_range slice.start 0 (by decide)
  have counted := normalize_range short given.1 (by omega)
  rw [originWithin?, within?_eq_some (by omega) (by omega)]
  exact normalizeWithin?_eq (by omega) (by omega)

theorem boundWithin?_eq (wide : 2 ^ 65 ≤ limit) (short : length < 2 ^ 64) :
    boundWithin? limit slice length = some (slice.bound length) := by
  have given := elim_toInt_range slice.stop length (by omega)
  have counted := normalize_range short given.1 (by omega)
  rw [boundWithin?, within?_eq_some (by omega) (by omega), Option.bind_eq_bind, Option.bind_some,
    normalizeWithin?_eq (by omega) (by omega)]
  rfl

end Ends

/-- The jump goes less than a stride beyond what is missing to the front of the array, and no value
on the way is larger. -/
theorem jumpWithin?_eq (wide : 2 ^ 65 ≤ limit) {origin stride : Int} (near : -2 ^ 63 ≤ origin)
    (before : origin < 0) (positive : 0 < stride) (short : stride ≤ 2 ^ 63) :
    jumpWithin? limit origin stride = some (jump origin stride) := by
  have whole : 0 ≤ -origin + stride - 1 := by omega
  have quotient : (-origin + stride - 1).tdiv stride = (-origin + stride - 1) / stride :=
    Int.tdiv_eq_ediv_of_nonneg whole
  have nonneg : 0 ≤ (-origin + stride - 1) / stride := Int.ediv_nonneg whole (by omega)
  have few : (-origin + stride - 1) / stride ≤ -origin + stride - 1 := Int.ediv_le_self _ whole
  have close := Int.ediv_mul_le (-origin + stride - 1) (by omega : stride ≠ 0)
  have forwards := Int.mul_nonneg nonneg (Int.le_of_lt positive)
  simp only [jumpWithin?, jump, quotient, Option.bind_eq_bind,
    within?_eq_some (show -limit ≤ -origin by omega) (by omega), Option.bind_some,
    within?_eq_some (show -limit ≤ -origin + stride by omega) (by omega),
    within?_eq_some (show -limit ≤ -origin + stride - 1 by omega) (by omega),
    within?_eq_some (show -limit ≤ (-origin + stride - 1) / stride by omega) (by omega)]
  exact within?_eq_some (by omega) (by omega)

theorem entryWithin?_eq (wide : 2 ^ 65 ≤ limit) {slice : Slice} {length : Nat}
    (positive : 0 < slice.stride) (short : length < 2 ^ 64) :
    entryWithin? limit (slice.origin length) slice.stride = some (slice.entry length) := by
  have range := slice.origin_range short
  have entered := entry_range positive short
  unfold entryWithin? entry at *
  by_cases before : slice.origin length < 0
  · simp only [if_pos before] at entered ⊢
    rw [jumpWithin?_eq wide range.1 before positive slice.stride_le]
    exact within?_eq_some (by omega) (by omega)
  · simp only [if_neg before]

/-- While the counter is below the bound it is an index, and its last step leads less than a stride
beyond the bound. -/
theorem climbWithin?_eq (wide : 2 ^ 65 ≤ limit) {stride bound counter : Int}
    (few : stride ≤ 2 ^ 63) (near : bound < 2 ^ 64) (inside : 0 ≤ counter) :
    climbWithin? limit stride bound counter =
      some ((climb stride bound counter).filterMap toIndex?) := by
  fun_induction climb stride bound counter with
  | case1 counter climbs ih =>
    have index : toIndex? counter = some counter.toNat :=
      toIndex?_eq_some_iff.mpr ⟨by omega, by simp only [UInt64.size]; omega⟩
    have step := within?_eq_some (show -limit ≤ counter + stride by omega) (by omega)
    rw [climbWithin?, if_pos climbs, index, step, ih (by omega), List.filterMap_cons_some index]
    rfl
  | case2 counter stuck => rw [climbWithin?, if_neg stuck, List.filterMap_nil]

theorem indicesWithin?_eq (wide : 2 ^ 65 ≤ limit) (slice : Slice) {length : Nat}
    (short : length < 2 ^ 64) : slice.indicesWithin? limit length = some (slice.indices length) := by
  have steps := slice.signedStep_range
  have few := slice.stride_le
  have within : slice.bound length ≤ length := Int.min_le_right _ _
  have stride : within? limit slice.signedStep.natAbs = some slice.stride :=
    within?_eq_some (by omega) (by omega)
  unfold indicesWithin? indices
  rw [within?_eq_some (show -limit ≤ slice.signedStep by omega) (by omega), Option.bind_eq_bind,
    Option.bind_some]
  by_cases zero : slice.signedStep = 0
  · rw [if_pos zero, if_pos zero]
    rfl
  · have positive : 0 < slice.stride := Int.natCast_pos.mpr (Int.natAbs_pos.mpr zero)
    have entered := entry_range positive short
    simp only [if_neg zero, Option.bind_eq_bind, Option.bind_some, stride,
      within?_eq_some (show -limit ≤ (length : Int) by omega) (by omega),
      originWithin?_eq wide short, boundWithin?_eq wide short, entryWithin?_eq wide positive short,
      climbWithin?_eq wide few (by omega : slice.bound length < 2 ^ 64) entered.1]
    rfl

end Within

/-- Whatever the bounds and the step, no value that is computed for the indices is beyond `2^65` on
either side of zero, the last step of the counter included, so that in any wider signed arithmetic
the indices are the exact ones. The progression is entered at its first member that is not negative,
and from there to its bound the counter is always an index of the array, so that none is left out. -/
theorem computes_without_overflow (slice : Slice) {length : Nat} (short : length < 2 ^ 64) :
    (∀ limit : Int, 2 ^ 65 ≤ limit →
      slice.indicesWithin? limit length = some (slice.indices length)) ∧
      (slice.signedStep ≠ 0 → IsLeast {index : Int | 0 ≤ index ∧
        ∃ rounds : Nat, index = slice.origin length + rounds * slice.stride}
        (slice.entry length)) ∧
      ∀ counter ∈ climb slice.stride (slice.bound length) (slice.entry length),
        0 ≤ counter ∧ counter < length ∧ toIndex? counter = some counter.toNat := by
  have nonneg : 0 ≤ slice.stride := Int.natCast_nonneg _
  refine ⟨fun limit wide => indicesWithin?_eq wide slice short, fun step => ?_,
    fun counter member => ?_⟩
  · exact isLeast_entry (Int.natCast_pos.mpr (Int.natAbs_pos.mpr step)) short
  · have positive : 0 < slice.stride := by
      rw [climb] at member
      split at member
      · rename_i climbs
        exact climbs.1
      · cases member
    have range := mem_climb_range positive short member
    exact ⟨range.1, range.2, toIndex?_eq_some_iff.mpr ⟨by omega, by simp only [UInt64.size]; omega⟩⟩

/-- The least start with the greatest step: one round leads from far before the array into it. -/
theorem computes_without_overflow_extreme :
    5 < 2 ^ 64 ∧ (2 : Int) ^ 65 ≤ 2 ^ 127 - 1 ∧
      (⟨some Int64.minValue, none, some Int64.maxValue⟩ : Slice).signedStep ≠ 0 ∧
      (⟨some Int64.minValue, none, some Int64.maxValue⟩ : Slice).indicesWithin? (2 ^ 127 - 1) 5 =
        some [4] ∧
      IsLeast {index : Int | 0 ≤ index ∧ ∃ rounds : Nat,
        index = -9223372036854775803 + rounds * 9223372036854775807} 4 ∧
      4 ∈ climb 9223372036854775807 5 4 ∧ toIndex? 4 = some 4 := by
  obtain ⟨within, least, counters⟩ := computes_without_overflow
    ⟨some Int64.minValue, none, some Int64.maxValue⟩ (by decide : 5 < 2 ^ 64)
  have step : (⟨some Int64.minValue, none, some Int64.maxValue⟩ : Slice).signedStep =
      9223372036854775807 := by decide +kernel
  have origin : (⟨some Int64.minValue, none, some Int64.maxValue⟩ : Slice).origin (5 : Nat) =
      -9223372036854775803 := by decide +kernel
  have bound : (⟨some Int64.minValue, none, some Int64.maxValue⟩ : Slice).bound (5 : Nat) = 5 := by
    decide +kernel
  have entry : (⟨some Int64.minValue, none, some Int64.maxValue⟩ : Slice).entry (5 : Nat) = 4 := by
    decide +kernel
  have climbs : climb 9223372036854775807 5 4 = [4] := by
    rw [climb, climb]
    simp
  have stride : (⟨some Int64.minValue, none, some Int64.maxValue⟩ : Slice).stride =
      9223372036854775807 := by
    rw [Slice.stride, step]
    rfl
  have addressed := within (2 ^ 127 - 1) (by decide)
  simp only [indices, step, stride, bound, entry, climbs] at addressed
  rw [step, origin, stride, entry] at least
  rw [stride, bound, entry, climbs] at counters
  refine ⟨by decide, by decide, by simp [step], addressed, least (by decide), by simp [climbs], ?_⟩
  exact (counters 4 (by simp)).2.2

end JsonQuery.Slice
