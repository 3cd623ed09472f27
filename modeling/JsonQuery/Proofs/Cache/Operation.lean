import JsonQuery.Proofs.Cache.RecencyList

/-! What can be done with a cache, step by step, and what is answered: once by a cache
and once by a list of recent uses. -/

namespace JsonQuery

/-- One step of the use of a cache. Sharing makes a selector that may then be inserted
under any text. -/
inductive CacheOperation where
  | get (text : String)
  | contains (text : String)
  | share (selector : Selector)
  | insert (text : String) (handle : Handle)
  | compile (text : String)
  | select (text : String) (value : Json)
  | nodes (text : String) (value : Json)
  | size
  | isEmpty
  | clear

inductive CacheAnswer where
  | done
  | shared (handle : Handle)
  | found (handle : Option Handle)
  | compiled (result : Except ParseError Handle)
  | selected (result : Except ParseError Selection)
  | listed (nodes : Option (List Node))
  | verdict (value : Bool)
  | count (value : Nat)

namespace CacheOperation

variable [PatternEngine]

def perform : CacheOperation → Caching CacheAnswer
  | get text => return .found (← Cache.get text)
  | contains text => return .verdict ((← MonadState.get).contains text)
  | share selector => return .shared (← Cache.share selector)
  | insert text handle => do Cache.insert text handle; return .done
  | compile text => return .compiled (← Cache.compile text)
  | select text value => return .selected (← Cache.select text value)
  | nodes text value => return .listed (← Cache.nodes? text value)
  | size => return .count (← MonadState.get).size
  | isEmpty => return .verdict ((← MonadState.get).size == 0)
  | clear => do Cache.clear; return .done

def performOnList : CacheOperation → Recency CacheAnswer
  | get text => return .found (← RecencyList.get text)
  | contains text => return .verdict (decide (text ∈ (← MonadState.get).texts))
  | share selector => return .shared (← RecencyList.share selector)
  | insert text handle => do RecencyList.insert text handle; return .done
  | compile text => return .compiled (← RecencyList.compile text)
  | select text value => return .selected (← RecencyList.select text value)
  | nodes text value => return .listed (← RecencyList.nodes? text value)
  | size => return .count (← MonadState.get).held.length
  | isEmpty => return .verdict (← MonadState.get).held.isEmpty
  | clear => do RecencyList.clear; return .done

def performAll (operations : List CacheOperation) : Caching (List CacheAnswer) :=
  operations.mapM perform

def performAllOnList (operations : List CacheOperation) : Recency (List CacheAnswer) :=
  operations.mapM performOnList

end CacheOperation

end JsonQuery
