import JsonQuery.Proofs.Query.SliceText
import Mathlib.Algebra.Ring.Int.Defs

/-! Which texts are slices. A text is a slice exactly if it consists of two or three bounds between
colons, and it tells every bound; all other texts between brackets are left to filters. -/

namespace JsonQuery

namespace Slice

theorem toInt_ofIntClamp (value : Int) :
    (Int64.ofIntClamp value).toInt = max (-2 ^ 63) (min value (2 ^ 63 - 1)) := by
  have least : Int64.minValue.toInt = -2 ^ 63 := rfl
  have greatest : Int64.maxValue.toInt = 2 ^ 63 - 1 := rfl
  unfold Int64.ofIntClamp
  split
  · split
    · rw [Int64.toInt_ofIntLE]
      omega
    · omega
  · omega

/-- A text writes a bound. Without digits the bound is unset, and else it is the number that they
stand for, or the nearest one in range. -/
def WritesBound (text : List Char) (bound : Option Int64) : Prop :=
  ∃ negative digits, BoundText negative digits text ∧
    bound.map Int64.toInt = if digits = [] then none
      else some (max (-2 ^ 63) (min (signedNumber negative digits) (2 ^ 63 - 1)))

theorem exists_boundText {text : List Char} {bound : Option Int64}
    (read : readBound? text = some bound) : ∃ negative digits, BoundText negative digits text := by
  obtain ⟨left, right, leftGaps, rightGaps, whole, _⟩ := Text.exists_trimBy Text.isGap text
  have gaps : ∀ char ∈ left ++ right, char ∈ [' ', '\t', '\r', '\n'] :=
    List.forall_mem_append.mpr ⟨fun char member => isGap_iff.mp (leftGaps char member),
      fun char member => isGap_iff.mp (rightGaps char member)⟩
  unfold readBound? at read
  split at read
  rename_i negative digits core
  rw [Option.ite_none_right_eq_some, List.all_eq_true] at read
  refine ⟨negative, digits, read.1, left, right, gaps, ?_⟩
  rw [whole]
  split at core
  · rename_i sign
    obtain ⟨rfl, rfl⟩ := Prod.mk.inj core
    rw [sign]
    rfl
  · obtain ⟨rfl, rfl⟩ := Prod.mk.inj core
    rfl

theorem readBound?_eq_some_iff {text : List Char} {bound : Option Int64} :
    readBound? text = some bound ↔ WritesBound text bound := by
  have number {negative : Bool} {digits : List Char} :
      (if digits = [] then none else some (Int64.ofIntClamp (signedNumber negative digits))).map
        Int64.toInt = if digits = [] then none
          else some (max (-2 ^ 63) (min (signedNumber negative digits) (2 ^ 63 - 1))) := by
    split
    · rfl
    · rw [Option.map_some, toInt_ofIntClamp]
  constructor
  · intro read
    obtain ⟨negative, digits, written⟩ := exists_boundText read
    refine ⟨negative, digits, written, ?_⟩
    rw [readBound?_of_boundText written] at read
    rw [← Option.some.inj read, number]
  · rintro ⟨negative, digits, written, value⟩
    have same := Option.map_injective (fun _ _ => Int64.toInt_inj.mp) (value.trans number.symm)
    rw [readBound?_of_boundText written, same]

theorem exists_writesBound {negative : Bool} {digits text : List Char}
    (written : BoundText negative digits text) : ∃ bound, WritesBound text bound :=
  ⟨_, readBound?_eq_some_iff.mp (readBound?_of_boundText written)⟩

/-- A slice is read from the bounds between the colons. -/
theorem read?_eq_some_iff {text : List Char} {slice : Slice} :
    read? text = some slice ↔
      (∃ start stop, text.splitOn ':' = [start, stop] ∧ WritesBound start slice.start ∧
        WritesBound stop slice.stop ∧ slice.step = none) ∨
      ∃ start stop step, text.splitOn ':' = [start, stop, step] ∧ WritesBound start slice.start ∧
        WritesBound stop slice.stop ∧ WritesBound step slice.step := by
  obtain ⟨start, stop, step⟩ := slice
  simp only [← readBound?_eq_some_iff]
  unfold read?
  rw [Text.split_eq_splitOn]
  rcases text.splitOn ':' with _ | ⟨first, _ | ⟨second, _ | ⟨third, _ | ⟨fourth, others⟩⟩⟩⟩
  · simp
  · simp
  · simp [Option.bind_eq_some_iff, eq_comm (a := step)]
  · simp [Option.bind_eq_some_iff]
  · simp

theorem exists_boundText_of_writesBound {text : List Char} {bound : Option Int64}
    (writes : WritesBound text bound) : ∃ negative digits, BoundText negative digits text := by
  obtain ⟨negative, digits, written, _⟩ := writes
  exact ⟨negative, digits, written⟩

/-- For a slice only the form of the parts matters, as every part of that form writes a bound. -/
theorem isSome_read?_iff {text : List Char} :
    (read? text).isSome ↔
      ((text.splitOn ':').length = 2 ∨ (text.splitOn ':').length = 3) ∧
        ∀ part ∈ text.splitOn ':', ∃ negative digits, BoundText negative digits part := by
  rw [Option.isSome_iff_exists]
  constructor
  · rintro ⟨slice, read⟩
    rcases read?_eq_some_iff.mp read with ⟨start, stop, cut, first, second, _⟩ |
      ⟨start, stop, step, cut, first, second, third⟩
    · rw [cut, List.forall_mem_cons, List.forall_mem_singleton]
      exact ⟨.inl rfl, exists_boundText_of_writesBound first, exists_boundText_of_writesBound second⟩
    · rw [cut, List.forall_mem_cons, List.forall_mem_cons, List.forall_mem_singleton]
      exact ⟨.inr rfl, exists_boundText_of_writesBound first, exists_boundText_of_writesBound second,
        exists_boundText_of_writesBound third⟩
  · rintro ⟨two | three, written⟩
    · obtain ⟨start, stop, cut⟩ := List.length_eq_two.mp two
      rw [cut, List.forall_mem_cons, List.forall_mem_singleton] at written
      obtain ⟨⟨_, _, startText⟩, _, _, stopText⟩ := written
      obtain ⟨first, writesFirst⟩ := exists_writesBound startText
      obtain ⟨second, writesSecond⟩ := exists_writesBound stopText
      exact ⟨⟨first, second, none⟩,
        read?_eq_some_iff.mpr (.inl ⟨start, stop, cut, writesFirst, writesSecond, rfl⟩)⟩
    · obtain ⟨start, stop, step, cut⟩ := List.length_eq_three.mp three
      rw [cut, List.forall_mem_cons, List.forall_mem_cons, List.forall_mem_singleton] at written
      obtain ⟨⟨_, _, startText⟩, ⟨_, _, stopText⟩, _, _, stepText⟩ := written
      obtain ⟨first, writesFirst⟩ := exists_writesBound startText
      obtain ⟨second, writesSecond⟩ := exists_writesBound stopText
      obtain ⟨third, writesThird⟩ := exists_writesBound stepText
      exact ⟨⟨first, second, third⟩, read?_eq_some_iff.mpr
        (.inr ⟨start, stop, step, cut, writesFirst, writesSecond, writesThird⟩)⟩

/-- A text is a slice exactly if it is cut at its colons into two or three bounds, each a minus sign
or none and then digits between gaps. Every bound is the one that its part writes, a step that is
not written is unset, and the text of every slice reads back as the slice. -/
theorem recognizes_bounds_between_colons (text : List Char) :
    ((read? text).isSome ↔
        ((text.splitOn ':').length = 2 ∨ (text.splitOn ':').length = 3) ∧
          ∀ part ∈ text.splitOn ':', ∃ negative digits, BoundText negative digits part) ∧
      (∀ slice, read? text = some slice ↔
        (∃ start stop, text.splitOn ':' = [start, stop] ∧ WritesBound start slice.start ∧
          WritesBound stop slice.stop ∧ slice.step = none) ∨
        ∃ start stop step, text.splitOn ':' = [start, stop, step] ∧
          WritesBound start slice.start ∧ WritesBound stop slice.stop ∧
          WritesBound step slice.step) ∧
      ∀ slice, read? (written slice) = some slice :=
  ⟨isSome_read?_iff, fun _ => read?_eq_some_iff, read?_written⟩

/-- Zeros in front count for nothing, a lone minus sign leaves the bound unset, and a number beyond
the range becomes the nearest bound. -/
example : read? "007: - :-99999999999999999999".toList = some ⟨some 7, none, some (-2 ^ 63)⟩ := by
  decide +kernel

end Slice

end JsonQuery
