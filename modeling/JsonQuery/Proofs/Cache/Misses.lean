import JsonQuery.Proofs.Cache.Refinement
import JsonQuery.Settings
import Mathlib

/-! A lookup that fails or misses does not show in anything that a cache does later. It moves
the clock, but on the list of recent uses that the cache stands for it changes nothing, and
caches that stand for one list cannot be told apart. -/

namespace JsonQuery

/-- A lookup that fails or misses, with what it answers. The text of a compilation or selection
is neither held nor reads, and that of a plain lookup is not held. To ask whether a text is held
is never a use of it. -/
inductive CacheOperation.Misses (cache : Cache) : CacheOperation → CacheAnswer → Prop where
  | get {text : String} (absent : cache.contains text = false) :
      Misses cache (.get text) (.found none)
  | contains (text : String) : Misses cache (.contains text) (.verdict (cache.contains text))
  | compile {text : String} {error : ParseError} (absent : cache.contains text = false)
      (unread : Selector.read text = .error error) :
      Misses cache (.compile text) (.compiled (.error error))
  | select {text : String} {error : ParseError} (value : Json)
      (absent : cache.contains text = false) (unread : Selector.read text = .error error) :
      Misses cache (.select text value) (.selected (.error error))
  | nodes {text : String} {error : ParseError} (value : Json)
      (absent : cache.contains text = false) (unread : Selector.read text = .error error) :
      Misses cache (.nodes text value) (.listed none)

/-- Two caches hold the same shared selectors under the same texts, and would drop the same
text next. -/
structure Cache.Alike (first second : Cache) : Prop where
  capacity : first.capacity = second.capacity
  size : first.size = second.size
  handle : ∀ text : String, first.entries[text]?.map CacheEntry.handle =
    second.entries[text]?.map CacheEntry.handle
  selectors : first.selectors = second.selectors
  oldest : first.oldest? = second.oldest?

namespace RecencyList

theorem run_select_error [PatternEngine] {list : RecencyList} {text : String} {error : ParseError}
    (missing : list.held.lookup text = none) (unread : Selector.read text = .error error)
    (value : Json) : (select text value).run list = (.error error, list) := by
  rw [select, StateT.run_bind, run_compile_error missing unread]
  rfl

theorem run_nodes?_error [PatternEngine] {list : RecencyList} {text : String} {error : ParseError}
    (missing : list.held.lookup text = none) (unread : Selector.read text = .error error)
    (value : Json) : (nodes? text value).run list = (none, list) := by
  rw [nodes?, StateT.run_bind, run_select_error missing unread]
  rfl

end RecencyList

namespace Represents

variable {capacity : Nat} {cache other : Cache} {list : RecencyList}

theorem handle_eq_lookup (represents : Represents capacity cache list) (text : String) :
    cache.entries[text]?.map CacheEntry.handle = list.held.lookup text := by
  cases held : list.held.lookup text with
  | none => rw [represents.absent_of_lookup held, Option.map_none]
  | some handle =>
    obtain ⟨entry, found, rfl⟩ := represents.entry_of_lookup held
    rw [found, Option.map_some]

theorem lookup_of_absent (represents : Represents capacity cache list) {text : String}
    (absent : cache.contains text = false) : list.held.lookup text = none := by
  rw [← represents.handle_eq_lookup, Std.HashMap.getElem?_eq_none_of_contains_eq_false absent,
    Option.map_none]

theorem oldest?_eq (represents : Represents capacity cache list) :
    cache.oldest? = list.texts.getLast? :=
  represents.leastRecent?_eq (.refl _)

theorem alike (first : Represents capacity cache list) (second : Represents capacity other list) :
    cache.Alike other where
  capacity := first.cacheCapacity.trans second.cacheCapacity.symm
  size := first.size_eq.trans second.size_eq.symm
  handle text := (first.handle_eq_lookup text).trans (second.handle_eq_lookup text).symm
  selectors := first.selectors.trans second.selectors.symm
  oldest := first.oldest?_eq.trans second.oldest?_eq.symm

theorem performOnList_of_misses [PatternEngine] (represents : Represents capacity cache list)
    {operation : CacheOperation} {answer : CacheAnswer} (misses : operation.Misses cache answer) :
    operation.performOnList.run list = (answer, list) := by
  cases misses with
  | get absent =>
    have missing := represents.lookup_of_absent absent
    rw [CacheOperation.performOnList, StateT.run_bind, RecencyList.run_get_none missing]
    rfl
  | contains text =>
    have same : decide (text ∈ list.texts) = cache.contains text := by
      rw [Bool.eq_iff_iff, represents.contains_iff, decide_eq_true_iff]
    rw [← same]
    rfl
  | compile absent unread =>
    have missing := represents.lookup_of_absent absent
    rw [CacheOperation.performOnList, StateT.run_bind,
      RecencyList.run_compile_error missing unread]
    rfl
  | select value absent unread =>
    have missing := represents.lookup_of_absent absent
    rw [CacheOperation.performOnList, StateT.run_bind,
      RecencyList.run_select_error missing unread]
    rfl
  | nodes value absent unread =>
    have missing := represents.lookup_of_absent absent
    rw [CacheOperation.performOnList, StateT.run_bind,
      RecencyList.run_nodes?_error missing unread]
    rfl

theorem missed [PatternEngine] (represents : Represents capacity cache list)
    {operation : CacheOperation} {answer : CacheAnswer} (misses : operation.Misses cache answer) :
    (operation.perform.run cache).1 = answer ∧
      Represents capacity (operation.perform.run cache).2 list := by
  have step := Simulates.perform operation capacity cache list represents
  rw [represents.performOnList_of_misses misses] at step
  exact step

/-- Whatever is done with two caches that stand for one list, they answer the same and stay
alike. -/
theorem performedAll_alike [PatternEngine] (first : Represents capacity cache list)
    (second : Represents capacity other list) (operations : List CacheOperation) :
    ((CacheOperation.performAll operations).run cache).1 =
        ((CacheOperation.performAll operations).run other).1 ∧
      ((CacheOperation.performAll operations).run cache).2.Alike
        ((CacheOperation.performAll operations).run other).2 := by
  have simulates := Simulates.mapM operations Simulates.perform
  obtain ⟨same, after⟩ := simulates capacity cache list first
  obtain ⟨sameOther, afterOther⟩ := simulates capacity other list second
  exact ⟨same.trans sameOther.symm, after.alike afterOther⟩

end Represents

/-- After any steps with a new cache, a lookup that fails or misses answers so, and every later
sequence of steps is answered, and leaves the cache, as if the lookup had not been made. -/
theorem Cache.unaffected_by_misses [PatternEngine] (capacity : Nat)
    (operations : List CacheOperation) {operation : CacheOperation} {answer : CacheAnswer}
    (misses : operation.Misses
      ((CacheOperation.performAll operations).run (Cache.new capacity)).2 answer) :
    let cache := ((CacheOperation.performAll operations).run (Cache.new capacity)).2
    let (missed, after) := operation.perform.run cache
    missed = answer ∧ ∀ later,
      ((CacheOperation.performAll later).run after).1 =
          ((CacheOperation.performAll later).run cache).1 ∧
        ((CacheOperation.performAll later).run after).2.Alike
          ((CacheOperation.performAll later).run cache).2 := by
  obtain ⟨-, represents⟩ := Simulates.mapM operations Simulates.perform _ _ _
    (Represents.new capacity)
  obtain ⟨answered, after⟩ := represents.missed misses
  exact ⟨answered, after.performedAll_alike represents⟩

/-- A text with an open group, looked up in a full cache that holds two other texts. -/
theorem Cache.unaffected_by_misses_full :
    CacheOperation.Misses
        ((CacheOperation.performAll [.share (.ofExpression (.chain [])), .insert "a" 0,
          .insert "b" 0]).run (Cache.new 2)).2
        (.compile "(") (.compiled (.error ⟨.unclosedGroup, 0⟩)) ∧
      ((CacheOperation.performAll [.get "a", .insert "c" 0, .contains "b"]).run
        ((CacheOperation.compile "(").perform.run
          ((CacheOperation.performAll [.share (.ofExpression (.chain [])), .insert "a" 0,
            .insert "b" 0]).run (Cache.new 2)).2).2).1 =
        ((CacheOperation.performAll [.get "a", .insert "c" 0, .contains "b"]).run
          ((CacheOperation.performAll [.share (.ofExpression (.chain [])), .insert "a" 0,
            .insert "b" 0]).run (Cache.new 2)).2).1 := by
  have unread : Selector.read "(" = .error ⟨.unclosedGroup, 0⟩ := by cbv
  obtain ⟨-, represents⟩ := Simulates.mapM [.share (.ofExpression (.chain [])), .insert "a" 0,
    .insert "b" 0] Simulates.perform _ _ _ (Represents.new 2)
  have absent : ((CacheOperation.performAll [.share (.ofExpression (.chain [])), .insert "a" 0,
      .insert "b" 0]).run (Cache.new 2)).2.contains "(" = false := by
    refine Bool.eq_false_iff.mpr fun present => ?_
    have held : "(" ∈ ["b", "a"] := (represents.contains_iff "(").mp present
    exact absurd held (by decide)
  have misses := CacheOperation.Misses.compile absent unread
  exact ⟨misses, ((unaffected_by_misses 2 _ misses).2 _).1⟩

end JsonQuery
