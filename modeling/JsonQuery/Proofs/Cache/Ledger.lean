import JsonQuery.Cache
import Mathlib.Data.List.Nodup

/-! The entries of a cache in the order of their last uses. The table itself has no
order that can be relied on; the times of the last uses alone determine this one. -/

namespace JsonQuery

/-- The entries of a cache, the last used first. No two have the time of their last use
in common, and none was used after now. -/
structure Ledger (cache : Cache) (uses : List (String × CacheEntry)) : Prop where
  listed : cache.entries.toList.Perm uses
  ordered : uses.Pairwise fun newer older => older.2.lastUsed < newer.2.lastUsed
  past : ∀ use ∈ uses, use.2.lastUsed ≤ cache.clock

namespace Ledger

variable {cache : Cache} {uses : List (String × CacheEntry)}

theorem mem_iff (ledger : Ledger cache uses) (text : String) (entry : CacheEntry) :
    (text, entry) ∈ uses ↔ cache.entries[text]? = some entry := by
  rw [← ledger.listed.mem_iff]
  exact Std.HashMap.mem_toList_iff_getElem?_eq_some

theorem nodup_toList (entries : Std.HashMap String CacheEntry) : entries.toList.Nodup := by
  refine Std.HashMap.distinct_keys_toList.imp ?_
  rintro first second different rfl
  simp at different

theorem texts_nodup (ledger : Ledger cache uses) : (uses.map Prod.fst).Nodup := by
  refine (ledger.listed.map Prod.fst).nodup ?_
  refine List.pairwise_map.mpr (Std.HashMap.distinct_keys_toList.imp ?_)
  intro first second different same
  simp [same] at different

theorem length_eq (ledger : Ledger cache uses) : uses.length = cache.size := by
  rw [← ledger.listed.length_eq]
  exact Std.HashMap.length_toList

theorem contains_iff (ledger : Ledger cache uses) (text : String) :
    cache.contains text = true ↔ text ∈ uses.map Prod.fst := by
  unfold Cache.contains
  rw [← Std.HashMap.isSome_getElem?_eq_contains, Option.isSome_iff_exists, List.mem_map]
  constructor
  · rintro ⟨entry, found⟩
    exact ⟨(text, entry), (ledger.mem_iff text entry).mpr found, rfl⟩
  · rintro ⟨⟨held, entry⟩, member, rfl⟩
    exact ⟨entry, (ledger.mem_iff held entry).mp member⟩

/-- Any listing of the entries leads to the same least recent text, for there is one
least time of last use only. -/
theorem leastRecent?_eq (ledger : Ledger cache uses) {listing : List (String × CacheEntry)}
    (same : listing.Perm cache.entries.toList) :
    Cache.leastRecent? listing = uses.getLast?.map Prod.fst := by
  have listed : listing.Perm uses := same.trans ledger.listed
  rcases List.eq_nil_or_concat' uses with rfl | ⟨newer, ⟨text, entry⟩, rfl⟩
  · rw [listed.eq_nil]
    rfl
  · have ordered := (List.pairwise_append.mp ledger.ordered).2.2
    have least (use) (member : use ∈ listing) :
        use = (text, entry) ∨ entry.lastUsed < use.2.lastUsed := by
      rcases List.mem_append.mp (listed.mem_iff.mp member) with before | last
      · exact .inr (ordered use before (text, entry) (by simp))
      · exact .inl (List.mem_singleton.mp last)
    have member : (text, entry) ∈ listing := listed.mem_iff.mpr (by simp)
    have minimum : (listing.map (·.2.lastUsed)).min? = some entry.lastUsed := by
      rw [List.min?_eq_some_iff]
      refine ⟨List.mem_map.mpr ⟨_, member, rfl⟩, ?_⟩
      intro time present
      obtain ⟨use, held, rfl⟩ := List.mem_map.mp present
      rcases least use held with rfl | later
      · exact Nat.le_refl _
      · exact Nat.le_of_lt later
    have found : listing.find? (·.2.lastUsed == entry.lastUsed) = some (text, entry) := by
      cases result : listing.find? (·.2.lastUsed == entry.lastUsed) with
      | none =>
        have absent := List.find?_eq_none.mp result _ member
        simp at absent
      | some use =>
        rcases least use (List.mem_of_find?_eq_some result) with rfl | later
        · rfl
        · have equal := List.find?_some result
          simp only [beq_iff_eq] at equal
          omega
    unfold Cache.leastRecent?
    rw [minimum, Option.bind_eq_bind, Option.bind_some, found]
    simp

theorem oldest?_eq (ledger : Ledger cache uses) :
    cache.oldest? = uses.getLast?.map Prod.fst := ledger.leastRecent?_eq (.refl _)

/-- Time may go on, and nothing but the entries and the clock matters. -/
theorem later (ledger : Ledger cache uses) {other : Cache}
    (entries : other.entries = cache.entries) (clock : cache.clock ≤ other.clock) :
    Ledger other uses where
  listed := entries ▸ ledger.listed
  ordered := ledger.ordered
  past use member := Nat.le_trans (ledger.past use member) clock

/-- A use moves an entry to the front, whether it was there before or not. -/
theorem touched (ledger : Ledger cache uses) (text : String) (handle : Handle) :
    Ledger { cache with
        clock := cache.clock + 1
        entries := cache.entries.insert text ⟨handle, cache.clock + 1⟩ }
      ((text, ⟨handle, cache.clock + 1⟩) :: uses.filter fun use => use.1 ≠ text) where
  listed := by
    refine Std.HashMap.toList_insert_perm.trans (.cons _ ?_)
    have kept := ledger.listed.filter fun use => use.1 ≠ text
    refine .trans (.of_eq (List.filter_congr ?_)) kept
    intro use _
    by_cases same : use.1 = text
    · simp [same]
    · simp [same, Ne.symm same]
  ordered := by
    refine List.pairwise_cons.mpr ⟨?_, ledger.ordered.filter _⟩
    intro use member
    exact Nat.lt_succ_of_le (ledger.past use (List.mem_of_mem_filter member))
  past := by
    intro use member
    rcases List.mem_cons.mp member with rfl | member
    · exact Nat.le_refl _
    · exact Nat.le_succ_of_le (ledger.past use (List.mem_of_mem_filter member))

theorem erased {newer : List (String × CacheEntry)} {text : String} {entry : CacheEntry}
    (ledger : Ledger cache (newer ++ [(text, entry)])) :
    Ledger { cache with entries := cache.entries.erase text } newer where
  listed := by
    have nodup := ledger.texts_nodup
    rw [List.map_append, List.nodup_append] at nodup
    refine (List.perm_ext_iff_of_nodup (nodup_toList _) (List.Nodup.of_map _ nodup.1)).mpr ?_
    rintro ⟨other, held⟩
    rw [Std.HashMap.mem_toList_iff_getElem?_eq_some, Std.HashMap.getElem?_erase]
    by_cases same : text = other
    · subst same
      have absent : (text, held) ∉ newer := by
        intro member
        exact nodup.2.2 text (List.mem_map.mpr ⟨_, member, rfl⟩) text (by simp) rfl
      simp [absent]
    · have kept := ledger.mem_iff other held
      rw [List.mem_append, List.mem_singleton, Prod.mk.injEq] at kept
      simp only [beq_iff_eq, same, if_false, ← kept, Ne.symm same, false_and, or_false]
  ordered := (List.pairwise_append.mp ledger.ordered).1
  past use member := ledger.past use (List.mem_append_left _ member)

theorem evicted (ledger : Ledger cache uses) : Ledger cache.evict uses.dropLast := by
  have oldest := ledger.oldest?_eq
  unfold Cache.evict
  rcases List.eq_nil_or_concat' uses with rfl | ⟨newer, ⟨text, entry⟩, rfl⟩
  · rw [oldest]
    exact ledger
  · rw [oldest, List.getLast?_concat, List.dropLast_concat]
    exact ledger.erased

theorem emptied (cache : Cache) : Ledger { cache with entries := ∅ } [] where
  listed := by rw [Std.HashMap.toList_empty]
  ordered := .nil
  past := by simp

end Ledger

end JsonQuery
