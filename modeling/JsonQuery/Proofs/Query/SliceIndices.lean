import JsonQuery.Query.Slice
import Mathlib.Data.List.Nodup
import Mathlib.Data.List.Perm.Subperm

/-! The indices that a slice addresses. The counter climbs strictly, so that no index is
addressed twice and a slice of a list has its members from different places. -/

namespace JsonQuery.Slice

theorem le_of_mem_climb {stride bound counter index : Int}
    (member : index ∈ climb stride bound counter) : counter ≤ index := by
  fun_induction climb stride bound counter with
  | case1 counter climbs ih =>
    rcases List.mem_cons.mp member with rfl | later
    · exact Int.le_refl _
    · have := ih later
      omega
  | case2 => cases member

theorem pairwise_climb (stride bound counter : Int) :
    (climb stride bound counter).Pairwise (· < ·) := by
  fun_induction climb stride bound counter with
  | case1 counter climbs ih =>
    refine List.pairwise_cons.mpr ⟨fun later member => ?_, ih⟩
    have := le_of_mem_climb member
    omega
  | case2 => exact .nil

theorem toIndex?_eq_some_iff {counter : Int} {index : Nat} :
    toIndex? counter = some index ↔ counter = index ∧ index < UInt64.size := by
  unfold toIndex?
  rw [Option.ite_none_right_eq_some, Option.some.injEq]
  omega

theorem pairwise_climbing (stride bound counter : Int) :
    ((climb stride bound counter).filterMap toIndex?).Pairwise (· < ·) := by
  refine List.pairwise_filterMap.mpr ((pairwise_climb stride bound counter).imp ?_)
  intro counter later less index found other foundOther
  have same := (toIndex?_eq_some_iff.mp found).1
  have sameOther := (toIndex?_eq_some_iff.mp foundOther).1
  omega

/-- The indices climb strictly, or from the last to the first if the step is negative. -/
theorem exists_climbing (slice : Slice) (length : Nat) :
    ∃ climbing : List Nat, climbing.Pairwise (· < ·) ∧
      slice.indices length = if slice.signedStep < 0 then climbing.reverse else climbing := by
  unfold indices
  by_cases zero : slice.signedStep = 0
  · exact ⟨[], .nil, by simp [zero]⟩
  · exact ⟨_, pairwise_climbing _ _ _, if_neg zero⟩

theorem nodup_indices (slice : Slice) (length : Nat) : (slice.indices length).Nodup := by
  obtain ⟨climbing, climbs, same⟩ := slice.exists_climbing length
  have distinct : climbing.Nodup := climbs.imp Nat.ne_of_lt
  rw [same]
  split
  · exact List.nodup_reverse.mpr distinct
  · exact distinct

variable {α : Type} {items : List α}

theorem mem_of_mem_apply {slice : Slice} {item : α} (member : item ∈ slice.apply items) :
    item ∈ items := by
  obtain ⟨index, _, found⟩ := List.mem_filterMap.mp member
  exact List.mem_of_getElem? found

/-- What tells the members of a list apart pairwise still does so in a slice of it, also if the
slice reverses the list. -/
theorem pairwise_apply {relation : α → α → Prop} (symmetric : ∀ {first second},
      relation first second → relation second first) (pairwise : items.Pairwise relation)
    (slice : Slice) : (slice.apply items).Pairwise relation := by
  refine List.pairwise_filterMap.mpr ((slice.nodup_indices items.length).imp ?_)
  intro index other different item found otherItem foundOther
  obtain ⟨inside, rfl⟩ := List.getElem?_eq_some_iff.mp found
  obtain ⟨otherInside, rfl⟩ := List.getElem?_eq_some_iff.mp foundOther
  have ordered := List.pairwise_iff_getElem.mp pairwise
  rcases Nat.lt_or_gt_of_ne different with before | behind
  · exact ordered index other inside otherInside before
  · exact symmetric (ordered other index otherInside inside behind)

/-- What is read at indices that climb from a start on is in the order of the list. -/
theorem sublist_drop_of_climbing {climbing : List Nat} (climbs : climbing.Pairwise (· < ·))
    {start : Nat} (inside : ∀ index ∈ climbing, start ≤ index) :
    (climbing.filterMap (items[·]?)).Sublist (items.drop start) := by
  induction climbing generalizing start with
  | nil => exact List.nil_sublist _
  | cons index rest ih =>
    obtain ⟨below, climbs⟩ := List.pairwise_cons.mp climbs
    have later := ih climbs below
    have dropped := List.drop_sublist_drop_left items (inside index List.mem_cons_self)
    cases found : items[index]? with
    | none =>
      rw [List.filterMap_cons_none found]
      exact (later.trans (List.drop_sublist_drop_left items (Nat.le_succ index))).trans dropped
    | some item =>
      rw [List.filterMap_cons_some found]
      obtain ⟨bound, rfl⟩ := List.getElem?_eq_some_iff.mp found
      rw [List.drop_eq_getElem_cons bound] at dropped
      exact (later.cons_cons _).trans dropped

theorem sublist_of_climbing {climbing : List Nat} (climbs : climbing.Pairwise (· < ·))
    (items : List α) : (climbing.filterMap (items[·]?)).Sublist items := by
  have kept : (climbing.filterMap (items[·]?)).Sublist (items.drop 0) :=
    sublist_drop_of_climbing climbs fun _ _ => Nat.zero_le _
  rwa [List.drop_zero] at kept

theorem apply_sublist {slice : Slice} (forwards : ¬ slice.signedStep < 0) (items : List α) :
    (slice.apply items).Sublist items := by
  obtain ⟨climbing, climbs, same⟩ := slice.exists_climbing items.length
  rw [apply, same, if_neg forwards]
  exact sublist_of_climbing climbs items

/-- Any slice takes its members from different places of the list. -/
theorem apply_subperm (slice : Slice) (items : List α) : (slice.apply items).Subperm items := by
  by_cases backwards : slice.signedStep < 0
  · obtain ⟨climbing, climbs, same⟩ := slice.exists_climbing items.length
    rw [apply, same, if_pos backwards, List.filterMap_reverse]
    exact (List.reverse_perm _).subperm.trans (sublist_of_climbing climbs items).subperm
  · exact (apply_sublist backwards items).subperm

end JsonQuery.Slice
