import JsonQuery.Proofs.Cache.Ledger
import JsonQuery.Proofs.Cache.Operation

/-! Caches answer as lists of recent uses do. A cache stands for the list that its
ledger gives, and every step keeps the two in line; the number of ticks that a step
takes does not matter. -/

namespace JsonQuery

def untimed (use : String × CacheEntry) : String × Handle := (use.1, use.2.handle)

theorem map_fst_untimed (uses : List (String × CacheEntry)) :
    (uses.map untimed).map Prod.fst = uses.map Prod.fst := by
  rw [List.map_map]
  rfl

theorem without_untimed (text : String) (uses : List (String × CacheEntry)) :
    RecencyList.without text (uses.map untimed) =
      (uses.filter fun use => use.1 ≠ text).map untimed := by
  unfold RecencyList.without
  rw [List.filter_map]
  rfl

/-- Placing a pair is making room and recording a use at the front. -/
theorem place_untimed {capacity : Nat} {uses : List (String × CacheEntry)} (text : String)
    (entry : CacheEntry) (positive : capacity ≠ 0) (fits : uses.length ≤ capacity) :
    RecencyList.place capacity text entry.handle (uses.map untimed) =
      ((text, entry) :: (if text ∉ uses.map Prod.fst ∧ capacity ≤ uses.length then
        uses.dropLast else uses).filter fun use => use.1 ≠ text).map untimed := by
  unfold RecencyList.place
  rw [if_neg positive, map_fst_untimed, List.length_map, List.map_cons]
  by_cases held : text ∈ uses.map Prod.fst
  · rw [if_pos held, if_neg (fun room => room.1 held), without_untimed]
    rfl
  · have other (use) (member : use ∈ uses) : use.1 ≠ text := fun same =>
      held (List.mem_map.mpr ⟨use, member, same⟩)
    by_cases full : uses.length = capacity
    · have kept : (uses.dropLast.filter fun use => use.1 ≠ text) = uses.dropLast :=
        List.filter_eq_self.mpr fun use member =>
          decide_eq_true (other use (List.dropLast_subset _ member))
      rw [if_neg held, if_pos full, if_pos ⟨held, Nat.le_of_eq full.symm⟩, kept, List.map_dropLast]
      rfl
    · have kept : (uses.filter fun use => use.1 ≠ text) = uses :=
        List.filter_eq_self.mpr fun use member => decide_eq_true (other use member)
      rw [if_neg held, if_neg full, if_neg (fun room => full (Nat.le_antisymm fits room.2)), kept]
      rfl

/-- A cache stands for a list of recent uses with the same capacity. -/
structure Represents (capacity : Nat) (cache : Cache) (list : RecencyList) : Prop where
  cacheCapacity : cache.capacity = capacity
  listCapacity : list.capacity = capacity
  selectors : cache.selectors = list.selectors
  recorded : ∃ uses, Ledger cache uses ∧ list.held = uses.map untimed
  fits : list.held.length ≤ capacity

namespace Represents

variable {capacity : Nat} {cache : Cache} {list : RecencyList}

theorem texts_nodup (represents : Represents capacity cache list) : list.texts.Nodup := by
  obtain ⟨uses, ledger, held⟩ := represents.recorded
  rw [RecencyList.texts, held, map_fst_untimed]
  exact ledger.texts_nodup

theorem size_eq (represents : Represents capacity cache list) : cache.size = list.held.length := by
  obtain ⟨uses, ledger, held⟩ := represents.recorded
  rw [held, List.length_map, ledger.length_eq]

theorem contains_iff (represents : Represents capacity cache list) (text : String) :
    cache.contains text = true ↔ text ∈ list.texts := by
  obtain ⟨uses, ledger, held⟩ := represents.recorded
  rw [ledger.contains_iff, RecencyList.texts, held, map_fst_untimed]

theorem ticked (represents : Represents capacity cache list) :
    Represents capacity { cache with clock := cache.clock + 1 } list where
  cacheCapacity := represents.cacheCapacity
  listCapacity := represents.listCapacity
  selectors := represents.selectors
  recorded := by
    obtain ⟨uses, ledger, held⟩ := represents.recorded
    exact ⟨uses, ledger.later rfl (Nat.le_succ _), held⟩
  fits := represents.fits

theorem shared (represents : Represents capacity cache list) (selector : Selector) (ticks : Nat) :
    Represents capacity
      { cache with clock := cache.clock + ticks, selectors := cache.selectors.push selector }
      { list with selectors := list.selectors.push selector } where
  cacheCapacity := represents.cacheCapacity
  listCapacity := represents.listCapacity
  selectors := congrArg (Array.push · selector) represents.selectors
  recorded := by
    obtain ⟨uses, ledger, held⟩ := represents.recorded
    exact ⟨uses, ledger.later rfl (Nat.le_add_right _ _), held⟩
  fits := represents.fits

theorem entry_of_lookup (represents : Represents capacity cache list) {text : String} {handle : Handle}
    (found : list.held.lookup text = some handle) :
    ∃ entry, cache.entries[text]? = some entry ∧ entry.handle = handle := by
  obtain ⟨uses, ledger, held⟩ := represents.recorded
  obtain ⟨before, after, split, _⟩ := List.lookup_eq_some_iff.mp found
  have member : (text, handle) ∈ uses.map untimed := by simp [← held, split]
  obtain ⟨⟨stored, entry⟩, present, same⟩ := List.mem_map.mp member
  obtain ⟨rfl, rfl⟩ := Prod.mk.inj same
  exact ⟨entry, (ledger.mem_iff stored entry).mp present, rfl⟩

theorem absent_of_lookup (represents : Represents capacity cache list) {text : String}
    (missing : list.held.lookup text = none) : cache.entries[text]? = none := by
  obtain ⟨uses, ledger, held⟩ := represents.recorded
  cases found : cache.entries[text]? with
  | none => rfl
  | some entry =>
    have member : untimed (text, entry) ∈ list.held :=
      held ▸ List.mem_map.mpr ⟨_, (ledger.mem_iff text entry).mpr found, rfl⟩
    have different := List.lookup_eq_none_iff.mp missing _ member
    simp [untimed] at different

end Represents

/-- A computation on a cache and one on a list answer the same from states that stand
for each other, and leave such states behind. -/
def Simulates {α : Type} (onCache : Caching α) (onList : Recency α) : Prop :=
  ∀ capacity cache list, Represents capacity cache list →
    (onCache.run cache).1 = (onList.run list).1 ∧
      Represents capacity (onCache.run cache).2 (onList.run list).2

namespace Simulates

variable {α β : Type}

theorem pure (value : α) : Simulates (pure value) (pure value) :=
  fun _ _ _ represents => ⟨rfl, represents⟩

theorem bind {onCache : Caching α} {onList : Recency α} {nextOnCache : α → Caching β}
    {nextOnList : α → Recency β} (first : Simulates onCache onList)
    (second : ∀ value, Simulates (nextOnCache value) (nextOnList value)) :
    Simulates (onCache >>= nextOnCache) (onList >>= nextOnList) := by
  intro capacity cache list represents
  obtain ⟨same, between⟩ := first capacity cache list represents
  have after := second (onList.run list).1 _ _ _ between
  rw [StateT.run_bind, StateT.run_bind]
  change ((nextOnCache (onCache.run cache).1).run (onCache.run cache).2).1 = _ ∧
    Represents capacity ((nextOnCache (onCache.run cache).1).run (onCache.run cache).2).2 _
  rw [same]
  exact after

theorem mapM (operations : List α) {onCache : α → Caching β} {onList : α → Recency β}
    (each : ∀ operation, Simulates (onCache operation) (onList operation)) :
    Simulates (operations.mapM onCache) (operations.mapM onList) := by
  induction operations with
  | nil =>
    rw [List.mapM_nil, List.mapM_nil]
    exact pure []
  | cons operation rest ih =>
    rw [List.mapM_cons, List.mapM_cons]
    exact bind (each operation) fun answer => bind ih fun answers => pure (answer :: answers)

end Simulates

namespace RecencyList

theorem run_get_some {list : RecencyList} {text : String} {handle : Handle}
    (found : list.held.lookup text = some handle) :
    (get text).run list =
      (some handle, { list with held := (text, handle) :: without text list.held }) := by
  simp only [get, StateT.run_bind, StateT.run_get, pure_bind, found]
  rfl

theorem run_get_none {list : RecencyList} {text : String}
    (missing : list.held.lookup text = none) : (get text).run list = (none, list) := by
  simp only [get, StateT.run_bind, StateT.run_get, pure_bind, missing]
  rfl

theorem run_compile_some {list : RecencyList} {text : String} {handle : Handle}
    (found : list.held.lookup text = some handle) :
    (compile text).run list = (.ok handle, ((get text).run list).2) := by
  rw [compile, StateT.run_bind, run_get_some found]
  rfl

theorem run_compile_error {list : RecencyList} {text : String} {error : ParseError}
    (missing : list.held.lookup text = none) (unread : Selector.read text = .error error) :
    (compile text).run list = (.error error, list) := by
  rw [compile, StateT.run_bind, run_get_none missing, unread]
  rfl

theorem run_compile_ok {list : RecencyList} {text : String} {selector : Selector}
    (missing : list.held.lookup text = none) (read : Selector.read text = .ok selector) :
    (compile text).run list = (.ok list.selectors.size,
      ((insert text list.selectors.size).run
        { list with selectors := list.selectors.push selector }).2) := by
  rw [compile, StateT.run_bind, run_get_none missing, read]
  rfl

theorem run_evaluate_none [PatternEngine] {list : RecencyList} {handle : Handle} (value : Json)
    (absent : list.selectors[handle]? = none) :
    (evaluate handle value).run list = (none, list) := by
  rw [evaluate, StateT.run_modifyGet]
  simp only [absent]
  rfl

theorem run_evaluate_some [PatternEngine] {list : RecencyList} {handle : Handle}
    {selector : Selector} (value : Json) (shared : list.selectors[handle]? = some selector) :
    (evaluate handle value).run list = (some (selector.evaluate value).1, { list with
      selectors := list.selectors.setIfInBounds handle (selector.evaluate value).2 }) := by
  rw [evaluate, StateT.run_modifyGet]
  simp only [shared]
  rfl

end RecencyList

namespace Cache

theorem run_get_some {cache : Cache} {text : String} {entry : CacheEntry}
    (found : cache.entries[text]? = some entry) :
    (get text).run cache = (some entry.handle, { cache with
      clock := cache.clock + 1
      entries := cache.entries.insert text ⟨entry.handle, cache.clock + 1⟩ }) := by
  simp only [get, StateT.run_bind, StateT.run_get, pure_bind, found]
  rfl

theorem run_get_none {cache : Cache} {text : String} (missing : cache.entries[text]? = none) :
    (get text).run cache = (none, { cache with clock := cache.clock + 1 }) := by
  simp only [get, StateT.run_bind, StateT.run_get, pure_bind, missing]
  rfl

/-- Making room for a text, where that is needed. -/
def makeRoom (text : String) (cache : Cache) : Cache :=
  if !cache.contains text && cache.capacity ≤ cache.size then cache.evict else cache

theorem capacity_makeRoom (text : String) (cache : Cache) :
    (cache.makeRoom text).capacity = cache.capacity := by
  unfold makeRoom evict
  split
  · split <;> rfl
  · rfl

theorem selectors_makeRoom (text : String) (cache : Cache) :
    (cache.makeRoom text).selectors = cache.selectors := by
  unfold makeRoom evict
  split
  · split <;> rfl
  · rfl

theorem run_insert {cache : Cache} (text : String) (handle : Handle)
    (capacity : cache.capacity ≠ 0) :
    (insert text handle).run cache = (touch text handle).run (cache.makeRoom text) := by
  simp only [insert, StateT.run_bind, StateT.run_get, pure_bind, capacity, if_false, makeRoom]
  split <;> rfl

theorem run_insert_zero {cache : Cache} (text : String) (handle : Handle)
    (capacity : cache.capacity = 0) : (insert text handle).run cache = ((), cache) := by
  simp only [insert, StateT.run_bind, StateT.run_get, pure_bind, capacity, if_true]
  rfl

theorem run_compile_some {cache : Cache} {text : String} {entry : CacheEntry}
    (found : cache.entries[text]? = some entry) :
    (compile text).run cache = (.ok entry.handle, ((get text).run cache).2) := by
  rw [compile, StateT.run_bind, run_get_some found]
  rfl

theorem run_compile_error {cache : Cache} {text : String} {error : ParseError}
    (missing : cache.entries[text]? = none) (unread : Selector.read text = .error error) :
    (compile text).run cache = (.error error, { cache with clock := cache.clock + 1 }) := by
  rw [compile, StateT.run_bind, run_get_none missing, unread]
  rfl

/-- The second look at the cache finds nothing if nobody else uses it. All that it leaves
behind is a tick of the clock. -/
theorem run_keep {cache : Cache} {text : String} (handle : Handle)
    (missing : cache.entries[text]? = none) :
    ∃ ticks, (keep text handle).run cache = (handle,
      ((insert text handle).run { cache with clock := cache.clock + ticks }).2) := by
  by_cases capacity : cache.capacity = 0
  · refine ⟨0, ?_⟩
    have same : ({ cache with clock := cache.clock + 0 } : Cache) = cache := rfl
    rw [same, run_insert_zero text handle capacity, keep, StateT.run_bind, StateT.run_get]
    simp only [pure_bind, capacity, if_true]
    rfl
  · refine ⟨1, ?_⟩
    rw [keep, StateT.run_bind, StateT.run_get]
    simp only [pure_bind, capacity, if_false, StateT.run_bind, run_get_none missing]
    rfl

theorem run_compile_ok {cache : Cache} {text : String} {selector : Selector}
    (missing : cache.entries[text]? = none) (read : Selector.read text = .ok selector) :
    ∃ ticks, (compile text).run cache = (.ok cache.selectors.size,
      ((insert text cache.selectors.size).run { cache with
        clock := cache.clock + ticks, selectors := cache.selectors.push selector }).2) := by
  let shared : Cache :=
    { cache with clock := cache.clock + 1, selectors := cache.selectors.push selector }
  have missingStill : shared.entries[text]? = none := missing
  obtain ⟨ticks, kept⟩ := run_keep cache.selectors.size missingStill
  refine ⟨1 + ticks, ?_⟩
  have run : (compile text).run cache =
      (do return .ok (← keep text cache.selectors.size) : Caching _).run shared := by
    rw [compile, StateT.run_bind, run_get_none missing, read]
    rfl
  rw [run, StateT.run_bind, kept, ← Nat.add_assoc]
  rfl

theorem run_evaluate_none [PatternEngine] {cache : Cache} {handle : Handle} (value : Json)
    (absent : cache.selector? handle = none) :
    (evaluate handle value).run cache = (none, cache) := by
  simp only [evaluate, StateT.run_bind, StateT.run_get, pure_bind, absent]
  rfl

theorem run_evaluate_some [PatternEngine] {cache : Cache} {handle : Handle} {selector : Selector}
    (value : Json) (shared : cache.selector? handle = some selector) :
    (evaluate handle value).run cache = (some (selector.evaluate value).1, { cache with
      selectors := cache.selectors.setIfInBounds handle (selector.evaluate value).2 }) := by
  simp only [evaluate, StateT.run_bind, StateT.run_get, pure_bind, shared]
  rfl

end Cache

theorem Ledger.makeRoom {cache : Cache} {uses : List (String × CacheEntry)} (text : String)
    (ledger : Ledger cache uses) :
    Ledger (cache.makeRoom text)
      (if text ∉ uses.map Prod.fst ∧ cache.capacity ≤ uses.length then uses.dropLast else uses) := by
  unfold Cache.makeRoom
  rw [ledger.length_eq]
  by_cases held : cache.contains text = true
  · simpa [held, (ledger.contains_iff text).mp held] using ledger
  · have absent : text ∉ uses.map Prod.fst := fun member =>
      held ((ledger.contains_iff text).mpr member)
    by_cases full : cache.capacity ≤ cache.size
    · rw [if_pos (by simp [held, full]), if_pos ⟨absent, full⟩]
      exact ledger.evicted
    · rw [if_neg (by simp [full]), if_neg (by simp [full])]
      exact ledger

namespace Simulates

theorem get (text : String) : Simulates (Cache.get text) (RecencyList.get text) := by
  intro capacity cache list represents
  obtain ⟨uses, ledger, held⟩ := represents.recorded
  cases result : list.held.lookup text with
  | none =>
    rw [Cache.run_get_none (represents.absent_of_lookup result),
      RecencyList.run_get_none result]
    exact ⟨rfl, represents.ticked⟩
  | some handle =>
    obtain ⟨entry, found, rfl⟩ := represents.entry_of_lookup result
    rw [Cache.run_get_some found, RecencyList.run_get_some result]
    refine ⟨rfl, represents.cacheCapacity, represents.listCapacity, represents.selectors,
      ⟨_, ledger.touched text entry.handle, ?_⟩, ?_⟩
    · rw [List.map_cons, held, without_untimed]
      rfl
    · obtain ⟨before, after, split, _⟩ := List.lookup_eq_some_iff.mp result
      have member : text ∈ list.held.map Prod.fst := by simp [split]
      exact Nat.le_trans (RecencyList.length_without_lt member) represents.fits

/-- Inserting puts the pair at the front of the ledger after making room. -/
theorem insert (text : String) (handle : Handle) :
    Simulates (Cache.insert text handle) (RecencyList.insert text handle) := by
  intro capacity cache list represents
  obtain ⟨uses, ledger, held⟩ := represents.recorded
  have onList : (RecencyList.insert text handle).run list =
      ((), { list with held := RecencyList.place list.capacity text handle list.held }) := rfl
  have sameCapacity := represents.cacheCapacity
  by_cases zero : capacity = 0
  · rw [Cache.run_insert_zero text handle (sameCapacity.trans zero), onList, RecencyList.place,
      if_pos (represents.listCapacity.trans zero)]
    exact ⟨rfl, represents⟩
  · rw [Cache.run_insert text handle (sameCapacity.symm ▸ zero), onList, represents.listCapacity]
    have within : uses.length ≤ capacity := by
      rw [← List.length_map untimed, ← held]
      exact represents.fits
    refine ⟨rfl, ?_, rfl, ?_, ⟨_, (ledger.makeRoom text).touched text handle, ?_⟩, ?_⟩
    · exact (Cache.capacity_makeRoom text cache).trans sameCapacity
    · exact (Cache.selectors_makeRoom text cache).trans represents.selectors
    · rw [sameCapacity, held]
      exact place_untimed text ⟨handle, _⟩ zero within
    · exact RecencyList.length_place_le represents.fits

theorem share (selector : Selector) :
    Simulates (Cache.share selector) (RecencyList.share selector) := by
  intro capacity cache list represents
  exact ⟨congrArg Array.size represents.selectors, represents.shared selector 0⟩

/-- The second look of a compilation finds nothing, for nobody else uses the cache. -/
theorem compile (text : String) :
    Simulates (Cache.compile text) (RecencyList.compile text) := by
  intro capacity cache list represents
  cases result : list.held.lookup text with
  | some handle =>
    obtain ⟨entry, found, rfl⟩ := represents.entry_of_lookup result
    rw [Cache.run_compile_some found, RecencyList.run_compile_some result]
    exact ⟨rfl, (get text capacity cache list represents).2⟩
  | none =>
    have missing := represents.absent_of_lookup result
    cases read : Selector.read text with
    | error error =>
      rw [Cache.run_compile_error missing read, RecencyList.run_compile_error result read]
      exact ⟨rfl, represents.ticked⟩
    | ok selector =>
      obtain ⟨ticks, onCache⟩ := Cache.run_compile_ok missing read
      have inserted := insert text cache.selectors.size _ _ _ (represents.shared selector ticks)
      rw [onCache, RecencyList.run_compile_ok result read, ← represents.selectors]
      exact ⟨rfl, represents.selectors ▸ inserted.2⟩

theorem evaluate [PatternEngine] (handle : Handle) (value : Json) :
    Simulates (Cache.evaluate handle value) (RecencyList.evaluate handle value) := by
  intro capacity cache list represents
  have same : cache.selector? handle = list.selectors[handle]? := by
    rw [Cache.selector?, represents.selectors]
  cases shared : list.selectors[handle]? with
  | none =>
    rw [shared] at same
    rw [Cache.run_evaluate_none value same, RecencyList.run_evaluate_none value shared]
    exact ⟨rfl, represents⟩
  | some selector =>
    rw [shared] at same
    rw [Cache.run_evaluate_some value same, RecencyList.run_evaluate_some value shared]
    obtain ⟨uses, ledger, held⟩ := represents.recorded
    refine ⟨rfl, represents.cacheCapacity, represents.listCapacity, ?_,
      ⟨uses, ledger.later rfl (Nat.le_refl _), held⟩, represents.fits⟩
    rw [represents.selectors]

theorem select [PatternEngine] (text : String) (value : Json) :
    Simulates (Cache.select text value) (RecencyList.select text value) := by
  refine bind (compile text) fun compiled => ?_
  cases compiled with
  | error error => exact pure _
  | ok handle => exact bind (evaluate handle value) fun selection => pure _

theorem nodes? [PatternEngine] (text : String) (value : Json) :
    Simulates (Cache.nodes? text value) (RecencyList.nodes? text value) := by
  refine bind (select text value) fun selected => ?_
  rcases selected with error | ⟨nodes⟩ | node
  · exact pure _
  · cases nodes with
    | nil => exact pure _
    | cons node rest => exact pure _
  · exact pure _

theorem clear : Simulates Cache.clear RecencyList.clear := by
  intro capacity cache list represents
  exact ⟨rfl, represents.cacheCapacity, represents.listCapacity, represents.selectors,
    ⟨[], Ledger.emptied cache, rfl⟩, Nat.zero_le _⟩

theorem read {onCache : Cache → CacheAnswer} {onList : RecencyList → CacheAnswer}
    (agree : ∀ capacity cache list, Represents capacity cache list →
      onCache cache = onList list) :
    Simulates (do return onCache (← MonadState.get)) (do return onList (← MonadState.get)) :=
  fun capacity cache list represents => ⟨agree capacity cache list represents, represents⟩

theorem perform [PatternEngine] (operation : CacheOperation) :
    Simulates operation.perform operation.performOnList := by
  cases operation with
  | get text => exact bind (get text) fun found => pure _
  | contains text =>
    refine read fun _ cache list represents => congrArg CacheAnswer.verdict ?_
    rw [Bool.eq_iff_iff, represents.contains_iff, decide_eq_true_iff]
  | share selector => exact bind (share selector) fun handle => pure _
  | insert text handle => exact bind (insert text handle) fun done => pure _
  | compile text => exact bind (compile text) fun compiled => pure _
  | select text value => exact bind (select text value) fun selected => pure _
  | nodes text value => exact bind (nodes? text value) fun nodes => pure _
  | size =>
    exact read fun _ cache list represents => congrArg CacheAnswer.count represents.size_eq
  | isEmpty =>
    refine read fun _ cache list represents => congrArg CacheAnswer.verdict ?_
    rw [represents.size_eq]
    cases list.held <;> rfl
  | clear => exact bind clear fun done => pure _

end Simulates

theorem Represents.new (capacity : Nat) :
    Represents capacity (Cache.new capacity) (RecencyList.new capacity) where
  cacheCapacity := rfl
  listCapacity := rfl
  selectors := rfl
  recorded := ⟨[], Ledger.emptied (Cache.new capacity), rfl⟩
  fits := Nat.zero_le capacity

theorem Represents.leastRecent?_eq {capacity : Nat} {cache : Cache} {list : RecencyList}
    (represents : Represents capacity cache list) {listing : List (String × CacheEntry)}
    (same : listing.Perm cache.entries.toList) :
    Cache.leastRecent? listing = list.texts.getLast? := by
  obtain ⟨uses, ledger, held⟩ := represents.recorded
  rw [ledger.leastRecent?_eq same, RecencyList.texts, held, map_fst_untimed, List.getLast?_map]

/-- From a new cache on, every sequence of steps is answered as by a list of recent uses
of the same capacity. Between steps the list holds different texts, no more than the
capacity, and its last text is the one to be dropped, in whatever order the entries of
the cache are listed. -/
theorem Cache.answers_as_recencyList [PatternEngine] (capacity : Nat)
    (operations : List CacheOperation) :
    let (answers, cache) := (CacheOperation.performAll operations).run (Cache.new capacity)
    let (expected, list) :=
      (CacheOperation.performAllOnList operations).run (RecencyList.new capacity)
    answers = expected ∧ list.texts.Nodup ∧ cache.size = list.held.length ∧
      cache.size ≤ capacity ∧
      ∀ listing, listing.Perm cache.entries.toList →
        Cache.leastRecent? listing = list.texts.getLast? := by
  obtain ⟨same, represents⟩ := Simulates.mapM operations Simulates.perform _ _ _
    (Represents.new capacity)
  refine ⟨same, represents.texts_nodup, represents.size_eq, ?_, ?_⟩
  · exact Nat.le_trans (Nat.le_of_eq represents.size_eq) represents.fits
  · intro listing permuted
    exact represents.leastRecent?_eq permuted

end JsonQuery
