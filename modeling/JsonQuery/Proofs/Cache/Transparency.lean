import JsonQuery.Proofs.Cache.Refinement
import JsonQuery.Proofs.Evaluation.Answer
import JsonQuery.Settings
import Mathlib

/-! A cache does not show in what it answers. Every selector that it holds under a text was
read from this text, and however often it was evaluated since, it answers as a new one. -/

namespace JsonQuery

theorem Cache.selector?_insert (cache : Cache) (text : String) (handle other : Handle) :
    ((insert text handle).run cache).2.selector? other = cache.selector? other := by
  by_cases capacity : cache.capacity = 0
  · rw [run_insert_zero text handle capacity]
  · rw [run_insert text handle capacity]
    exact congrArg (·[other]?) (selectors_makeRoom text cache)

section Evaluating

variable [PatternEngine]

namespace Selector

/-- A selector for what the text describes, whatever patterns it has compiled. -/
def ReadFrom (selector : Selector) (text : String) : Prop :=
  ∃ made, Selector.read text = .ok made ∧ selector.expression = made.expression

/-- A selector after its evaluation on some values. -/
def after (selector : Selector) (values : List Json) : Selector :=
  values.foldl (fun selector value => (selector.evaluate value).2) selector

/-- The selection of a text on a value without a cache: the text is read, and its selector
evaluated once. -/
def selectOnce (text : String) (value : Json) : Except ParseError Selection :=
  (Selector.read text).map fun selector => (selector.evaluate value).1

theorem sound_after {selector : Selector} (sound : selector.Sound) (values : List Json) :
    (selector.after values).Sound := by
  induction values generalizing selector with
  | nil => exact sound
  | cons value rest ih => exact ih (sound_evaluate sound value)

theorem sound_of_read {text : String} {made : Selector} (read : Selector.read text = .ok made) :
    made.Sound := by
  unfold Selector.read at read
  cases parsed : Expression.read text with
  | error error => simp [parsed, Except.map] at read
  | ok expression =>
    simp only [parsed, Except.map, Except.ok.injEq] at read
    exact read ▸ sound_ofExpression expression

theorem selectOnce_eq {selector : Selector} {text : String}
    (sound : selector.Sound) (origin : selector.ReadFrom text) (value : Json) :
    selectOnce text value = .ok (selector.evaluate value).1 := by
  obtain ⟨made, read, same⟩ := origin
  rw [selectOnce, read, Except.map, selection_evaluate (sound_of_read read),
    selection_evaluate sound, same]

end Selector

namespace CacheOperation

/-- What is shared is a selector of some expression, which may have been used before, and a
selector is inserted only under a text that it was read from. -/
def Faithful (cache : Cache) : CacheOperation → Prop
  | share selector => ∃ expression values, selector = (Selector.ofExpression expression).after values
  | insert text handle => ∃ selector, cache.selector? handle = some selector ∧ selector.ReadFrom text
  | _ => True

/-- Some steps, one after another, of which each is faithful when it is done. -/
def AllFaithful : List CacheOperation → Cache → Prop
  | [], _ => True
  | operation :: rest, cache =>
    operation.Faithful cache ∧ AllFaithful rest (operation.perform.run cache).2

end CacheOperation

/-- All shared selectors are sound, and what is held for a text was read from it. -/
structure Cache.Genuine (cache : Cache) : Prop where
  sound : ∀ handle selector, cache.selector? handle = some selector → selector.Sound
  held : ∀ text entry, cache.entries[text]? = some entry →
    ∃ selector, cache.selector? entry.handle = some selector ∧ selector.ReadFrom text

theorem Cache.run_select (cache : Cache) (text : String) (value : Json) :
    (select text value).run cache =
      match ((compile text).run cache).1 with
      | .error error => (.error error, ((compile text).run cache).2)
      | .ok handle =>
        let evaluated := (evaluate handle value).run ((compile text).run cache).2
        (.ok (evaluated.1.getD .empty), evaluated.2) := by
  rw [select, StateT.run_bind]
  generalize (compile text).run cache = compiled
  obtain ⟨result, between⟩ := compiled
  cases result <;> rfl

theorem Cache.run_nodes? (cache : Cache) (text : String) (value : Json) :
    (nodes? text value).run cache =
      (match ((select text value).run cache).1 with
        | .error _ => none
        | .ok (.nodes []) => none
        | .ok selection => some selection.toList, ((select text value).run cache).2) := by
  rw [nodes?, StateT.run_bind]
  generalize (select text value).run cache = selected
  obtain ⟨result, after⟩ := selected
  rcases result with error | ⟨nodes⟩ | node
  · rfl
  · cases nodes <;> rfl
  · rfl

namespace Cache.Genuine

variable {cache : Cache}

theorem new (capacity : Nat) : (Cache.new capacity).Genuine where
  sound handle selector shared := by simp [Cache.new, selector?] at shared
  held text entry found := by simp [Cache.new] at found

theorem stored (genuine : cache.Genuine) {text : String} {handle : Handle} {selector : Selector}
    (shared : cache.selector? handle = some selector) (read : selector.ReadFrom text) :
    ((touch text handle).run cache).2.Genuine where
  sound := genuine.sound
  held other entry found := by
    change (cache.entries.insert text ⟨handle, cache.clock + 1⟩)[other]? = some entry at found
    rw [Std.HashMap.getElem?_insert] at found
    split at found
    · rename_i same
      obtain rfl := beq_iff_eq.mp same
      obtain rfl := Option.some.inj found
      exact ⟨selector, shared, read⟩
    · exact genuine.held other entry found

theorem evicted (genuine : cache.Genuine) : cache.evict.Genuine := by
  unfold Cache.evict
  split
  · refine ⟨genuine.sound, fun text entry found => genuine.held text entry ?_⟩
    rw [Std.HashMap.getElem?_erase] at found
    split at found
    · cases found
    · exact found
  · exact genuine

theorem makeRoom (genuine : cache.Genuine) (text : String) : (cache.makeRoom text).Genuine := by
  unfold Cache.makeRoom
  split
  · exact genuine.evicted
  · exact genuine

theorem inserted (genuine : cache.Genuine) {text : String} {handle : Handle} {selector : Selector}
    (shared : cache.selector? handle = some selector) (read : selector.ReadFrom text) :
    ((insert text handle).run cache).2.Genuine := by
  by_cases capacity : cache.capacity = 0
  · rw [run_insert_zero text handle capacity]
    exact genuine
  · rw [run_insert text handle capacity]
    refine (genuine.makeRoom text).stored ?_ read
    rw [selector?, selectors_makeRoom]
    exact shared

theorem later (genuine : cache.Genuine) (ticks : Nat) :
    Genuine { cache with clock := cache.clock + ticks } :=
  ⟨genuine.sound, genuine.held⟩

/-- Only the expressions of the selectors that are held matter. -/
theorem kept (genuine : cache.Genuine) {selectors : Array Selector}
    (sound : ∀ (handle : Handle) (selector : Selector),
      selectors[handle]? = some selector → selector.Sound)
    (same : ∀ handle selector, cache.selector? handle = some selector →
      ∃ other, selectors[handle]? = some other ∧ other.expression = selector.expression) :
    Genuine { cache with selectors } where
  sound := sound
  held text entry found := by
    obtain ⟨selector, shared, made, read, origin⟩ := genuine.held text entry found
    obtain ⟨other, present, equal⟩ := same entry.handle selector shared
    exact ⟨other, present, made, read, equal.trans origin⟩

theorem shared (genuine : cache.Genuine) {selector : Selector} (sound : selector.Sound) :
    Genuine { cache with selectors := cache.selectors.push selector } := by
  refine genuine.kept (fun handle other found => ?_) fun handle other found => ⟨other, ?_, rfl⟩
  · rw [Array.getElem?_push] at found
    split at found
    · exact Option.some.inj found ▸ sound
    · exact genuine.sound handle other found
  · rw [Array.getElem?_push, if_neg]
    · exact found
    · rintro rfl
      simp [selector?] at found

theorem evaluated (genuine : cache.Genuine) (handle : Handle) (value : Json) :
    ((evaluate handle value).run cache).2.Genuine := by
  cases present : cache.selector? handle with
  | none =>
    rw [run_evaluate_none value present]
    exact genuine
  | some selector =>
    have bound : handle < cache.selectors.size := (Array.getElem?_eq_some_iff.mp present).1
    have replaced (place : Handle) :
        (cache.selectors.setIfInBounds handle (selector.evaluate value).2)[place]? =
          if handle = place then some (selector.evaluate value).2 else cache.selector? place := by
      simp [Array.getElem?_setIfInBounds, bound, selector?]
    rw [run_evaluate_some value present]
    refine genuine.kept (fun place other found => ?_) fun place other found => ?_
    · rw [replaced] at found
      split at found
      · exact Option.some.inj found ▸ Selector.sound_evaluate (genuine.sound _ _ present) value
      · exact genuine.sound place other found
    · rw [replaced]
      split
      · rename_i same
        obtain rfl : selector = other := Option.some.inj (present.symm.trans (same ▸ found))
        exact ⟨_, rfl, rfl⟩
      · exact ⟨other, found, rfl⟩

theorem got (genuine : cache.Genuine) (text : String) : ((get text).run cache).2.Genuine := by
  cases found : cache.entries[text]? with
  | none =>
    rw [run_get_none found]
    exact genuine.later 1
  | some entry =>
    obtain ⟨selector, shared, origin⟩ := genuine.held text entry found
    rw [run_get_some found]
    exact genuine.stored shared origin

theorem compiled (genuine : cache.Genuine) (text : String) :
    ((compile text).run cache).2.Genuine ∧
      ((∃ error, Selector.read text = .error error ∧
        ((compile text).run cache).1 = .error error) ∨
      ∃ handle selector, ((compile text).run cache).1 = .ok handle ∧
        ((compile text).run cache).2.selector? handle = some selector ∧
        selector.ReadFrom text) := by
  cases found : cache.entries[text]? with
  | some entry =>
    obtain ⟨selector, shared, origin⟩ := genuine.held text entry found
    rw [run_compile_some found]
    refine ⟨genuine.got text, .inr ⟨entry.handle, selector, rfl, ?_, origin⟩⟩
    rw [run_get_some found]
    exact shared
  | none =>
    cases read : Selector.read text with
    | error error =>
      rw [run_compile_error found read]
      exact ⟨genuine.later 1, .inl ⟨error, rfl, rfl⟩⟩
    | ok made =>
      obtain ⟨ticks, run⟩ := run_compile_ok found read
      have last : (cache.selectors.push made)[cache.selectors.size]? = some made := by simp
      have origin : made.ReadFrom text := ⟨made, read, rfl⟩
      have pushed := (genuine.later ticks).shared (Selector.sound_of_read read)
      rw [run]
      exact ⟨pushed.inserted last origin,
        .inr ⟨_, made, rfl, (selector?_insert _ text _ _).trans last, origin⟩⟩

theorem selected (genuine : cache.Genuine) (text : String) (value : Json) :
    ((select text value).run cache).1 = Selector.selectOnce text value ∧
      ((select text value).run cache).2.Genuine := by
  obtain ⟨after, ⟨error, unread, failed⟩ | ⟨handle, selector, made, present, origin⟩⟩ :=
    genuine.compiled text
  · rw [run_select, failed, Selector.selectOnce, unread]
    exact ⟨rfl, after⟩
  · rw [run_select, made, Selector.selectOnce_eq (after.sound handle selector present) origin]
    refine ⟨?_, after.evaluated handle value⟩
    simp only [run_evaluate_some value present]
    rfl

theorem performed (genuine : cache.Genuine) {operation : CacheOperation}
    (faithful : operation.Faithful cache) : (operation.perform.run cache).2.Genuine := by
  cases operation with
  | get text => exact genuine.got text
  | contains text => exact genuine
  | share selector =>
    obtain ⟨expression, values, rfl⟩ := faithful
    exact genuine.shared (Selector.sound_after (Selector.sound_ofExpression expression) values)
  | insert text handle =>
    obtain ⟨selector, present, origin⟩ := faithful
    exact genuine.inserted present origin
  | compile text => exact (genuine.compiled text).1
  | select text value => exact (genuine.selected text value).2
  | nodes text value =>
    have after := (genuine.selected text value).2
    change ((nodes? text value).run cache).2.Genuine
    rw [run_nodes?]
    exact after
  | size => exact genuine
  | isEmpty => exact genuine
  | clear =>
    refine ⟨genuine.sound, fun text entry found => ?_⟩
    change (∅ : Std.HashMap String CacheEntry)[text]? = some entry at found
    simp at found

theorem performedAll (genuine : cache.Genuine) {operations : List CacheOperation}
    (faithful : CacheOperation.AllFaithful operations cache) :
    ((CacheOperation.performAll operations).run cache).2.Genuine := by
  induction operations generalizing cache with
  | nil => exact genuine
  | cons operation rest ih =>
    rw [CacheOperation.performAll, run_mapM_cons]
    exact ih (genuine.performed faithful.1) faithful.2

end Cache.Genuine

/-- After any faithful steps a cache of any capacity selects what is selected without it. The
nodes of a text are none exactly if the text does not read or selects an empty list, and
otherwise those that are selected without the cache. -/
theorem Cache.select_transparent {capacity : Nat} {operations : List CacheOperation}
    (faithful : CacheOperation.AllFaithful operations (Cache.new capacity)) (text : String)
    (value : Json) :
    let cache := ((CacheOperation.performAll operations).run (Cache.new capacity)).2
    ((select text value).run cache).1 = Selector.selectOnce text value ∧
      (((nodes? text value).run cache).1 = none ↔
        (∃ error, Selector.selectOnce text value = .error error) ∨
          Selector.selectOnce text value = .ok (.nodes [])) ∧
      ∀ selection, Selector.selectOnce text value = .ok selection → selection ≠ .nodes [] →
        ((nodes? text value).run cache).1 = some selection.toList := by
  intro cache
  have genuine : cache.Genuine := (Genuine.new capacity).performedAll faithful
  have same := (genuine.selected text value).1
  rw [run_nodes?, same]
  refine ⟨rfl, ?_⟩
  rcases Selector.selectOnce text value with error | ⟨_ | ⟨node, rest⟩⟩ | node <;> simp

end Evaluating

/-- A selector that was used before it was inserted, dropped for another text and read again. -/
theorem Cache.select_transparent_dropped :
    CacheOperation.AllFaithful
        [.share ((Selector.ofExpression (.chain [.property "a" none none])).after [.null]),
          .insert "a" 0, .select "b" (.object [("a", .null)]), .compile "a"] (Cache.new 1) ∧
      ((select "a" (.object [("a", .null)])).run
        ((CacheOperation.performAll
          [.share ((Selector.ofExpression (.chain [.property "a" none none])).after [.null]),
            .insert "a" 0, .select "b" (.object [("a", .null)]), .compile "a"]).run
              (Cache.new 1)).2).1 =
        Selector.selectOnce "a" (.object [("a", .null)]) := by
  have read :
      Selector.read "a" = .ok (Selector.ofExpression (.chain [.property "a" none none])) := by
    cbv
  have faithful : CacheOperation.AllFaithful
      [.share ((Selector.ofExpression (.chain [.property "a" none none])).after [.null]),
        .insert "a" 0, .select "b" (.object [("a", .null)]), .compile "a"] (Cache.new 1) :=
    ⟨⟨_, _, rfl⟩, ⟨_, rfl, _, read, rfl⟩, trivial, trivial, trivial⟩
  exact ⟨faithful, (select_transparent faithful "a" _).1⟩

end JsonQuery
