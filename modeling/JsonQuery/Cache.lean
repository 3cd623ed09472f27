import JsonQuery.Selector

/-! A bounded cache of compiled selectors by their text. A full cache makes room by
dropping the entry whose last use is longest ago. Selectors are shared: a handle
stays good after its entry is dropped, and whoever holds it sees the same patterns. -/

namespace JsonQuery

/-- Which of the shared selectors is meant. -/
abbrev Handle := Nat

/-- A shared selector, and when its text was last used. -/
structure CacheEntry where
  handle : Handle
  lastUsed : Nat

/-- A cache, its clock, and all selectors shared so far. -/
structure Cache where
  capacity : Nat
  clock : Nat
  entries : Std.HashMap String CacheEntry
  selectors : Array Selector

abbrev Caching := StateM Cache

namespace Cache

def defaultCapacity : Nat := 1000

/-- An empty cache. A capacity of zero stores nothing. -/
def new (capacity : Nat) : Cache := ⟨capacity, 0, ∅, #[]⟩

def size (cache : Cache) : Nat := cache.entries.size

/-- The cache holds a selector for the text. This is no use of it. -/
def contains (cache : Cache) (text : String) : Bool := cache.entries.contains text

def selector? (cache : Cache) (handle : Handle) : Option Selector := cache.selectors[handle]?

/-- The first listed text of those whose last use is longest ago. -/
def leastRecent? (uses : List (String × CacheEntry)) : Option String := do
  let first ← (uses.map (·.2.lastUsed)).min?
  let (text, _) ← uses.find? (·.2.lastUsed == first)
  return text

def oldest? (cache : Cache) : Option String := leastRecent? cache.entries.toList

/-- Drop the entry whose last use is longest ago. -/
def evict (cache : Cache) : Cache :=
  match cache.oldest? with
  | some text => { cache with entries := cache.entries.erase text }
  | none => cache

/-- Advance the clock and read it. -/
def tick : Caching Nat :=
  modifyGet fun cache => (cache.clock + 1, { cache with clock := cache.clock + 1 })

def share (selector : Selector) : Caching Handle :=
  modifyGet fun cache =>
    (cache.selectors.size, { cache with selectors := cache.selectors.push selector })

/-- Store an entry that is used now. -/
def touch (text : String) (handle : Handle) : Caching Unit := do
  let now ← tick
  modify fun cache => { cache with entries := cache.entries.insert text ⟨handle, now⟩ }

/-- The selector for a text, if the cache holds it. This is a use of it. -/
def get (text : String) : Caching (Option Handle) := do
  match (← MonadState.get).entries[text]? with
  | some entry =>
    touch text entry.handle
    return some entry.handle
  | none =>
    let _ ← tick
    return none

/-- Store a shared selector under a text. Room is made for a new text only. -/
def insert (text : String) (handle : Handle) : Caching Unit := do
  let cache ← MonadState.get
  if cache.capacity = 0 then return
  if !cache.contains text && cache.capacity ≤ cache.size then modify evict
  touch text handle

/-- Store a selector that was read for a text. The cache is asked once more, for another
user may have stored the text in the meantime; then all share what is stored. -/
def keep (text : String) (handle : Handle) : Caching Handle := do
  if (← MonadState.get).capacity = 0 then return handle
  match ← get text with
  | some held => return held
  | none =>
    insert text handle
    return handle

/-- The selector for a text, which is read and stored if the cache does not hold it.
A text that does not read is not stored. -/
def compile (text : String) : Caching (Except ParseError Handle) := do
  match ← get text with
  | some handle => return .ok handle
  | none =>
    match Selector.read text with
    | .error error => return .error error
    | .ok selector => return .ok (← keep text (← share selector))

section Evaluating

variable [PatternEngine]

/-- Evaluate a shared selector. The patterns that it compiles are shared as well. -/
def evaluate (handle : Handle) (value : Json) : Caching (Option Selection) := do
  let cache ← MonadState.get
  match cache.selector? handle with
  | none => return none
  | some selector =>
    let (selection, selector) := selector.evaluate value
    set { cache with selectors := cache.selectors.setIfInBounds handle selector }
    return some selection

def select (text : String) (value : Json) : Caching (Except ParseError Selection) := do
  match ← compile text with
  | .error error => return .error error
  | .ok handle => return .ok ((← evaluate handle value).getD .empty)

/-- The nodes of a text on a value, by way of the cache; none if the text does not
read or selects an empty list. -/
def nodes? (text : String) (value : Json) : Caching (Option (List Node)) := do
  match ← select text value with
  | .error _ => return none
  | .ok (.nodes []) => return none
  | .ok selection => return some selection.toList

end Evaluating

def clear : Caching Unit := modify fun cache => { cache with entries := ∅ }

end Cache

end JsonQuery
