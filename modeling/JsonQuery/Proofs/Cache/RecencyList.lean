import JsonQuery.Cache

/-! A cache as a list of texts with their selectors, the most recently used first. This
is what users of a cache may rely on; how uses are timed does not appear in it. -/

namespace JsonQuery

/-- The texts held with their selectors, the last used first, and all selectors shared
so far. -/
structure RecencyList where
  capacity : Nat
  held : List (String × Handle)
  selectors : Array Selector

abbrev Recency := StateM RecencyList

namespace RecencyList

def new (capacity : Nat) : RecencyList := ⟨capacity, [], #[]⟩

def texts (list : RecencyList) : List String := list.held.map Prod.fst

/-- The pairs of all other texts. -/
def without (text : String) (held : List (String × Handle)) : List (String × Handle) :=
  held.filter fun pair => pair.1 ≠ text

/-- Put a pair at the front. It replaces a pair of the same text; any other makes the
last pair leave a full list. A list without capacity stays empty. -/
def place (capacity : Nat) (text : String) (handle : Handle) (held : List (String × Handle)) :
    List (String × Handle) :=
  if capacity = 0 then held
  else if text ∈ held.map Prod.fst then (text, handle) :: without text held
  else if held.length = capacity then (text, handle) :: held.dropLast
  else (text, handle) :: held

theorem length_without_lt {text : String} {held : List (String × Handle)}
    (member : text ∈ held.map Prod.fst) : (without text held).length < held.length := by
  obtain ⟨pair, present, rfl⟩ := List.mem_map.mp member
  exact List.length_filter_lt_length_iff_exists.mpr ⟨pair, present, by simp⟩

theorem length_place_le {capacity : Nat} {text : String} {handle : Handle}
    {held : List (String × Handle)} (fits : held.length ≤ capacity) :
    (place capacity text handle held).length ≤ capacity := by
  unfold place
  split
  · exact fits
  · split
    · rename_i member
      exact Nat.le_trans (length_without_lt member) fits
    · split
      · simp only [List.length_cons, List.length_dropLast]
        omega
      · exact Nat.lt_of_le_of_ne fits (by assumption)

/-- Use the selector of a text: its pair moves to the front. -/
def get (text : String) : Recency (Option Handle) := do
  let list ← MonadState.get
  match list.held.lookup text with
  | some handle =>
    set { list with held := (text, handle) :: without text list.held }
    return some handle
  | none => return none

def share (selector : Selector) : Recency Handle :=
  modifyGet fun list =>
    (list.selectors.size, { list with selectors := list.selectors.push selector })

/-- Hold a selector under a text. -/
def insert (text : String) (handle : Handle) : Recency Unit :=
  modify fun list => { list with held := place list.capacity text handle list.held }

/-- The selector of a text, held from now on if the text reads. -/
def compile (text : String) : Recency (Except ParseError Handle) := do
  match ← get text with
  | some handle => return .ok handle
  | none =>
    match Selector.read text with
    | .error error => return .error error
    | .ok selector =>
      let handle ← share selector
      insert text handle
      return .ok handle

variable [PatternEngine]

/-- Evaluate a shared selector, whose patterns are shared as well. -/
def evaluate (handle : Handle) (value : Json) : Recency (Option Selection) :=
  modifyGet fun list =>
    match list.selectors[handle]? with
    | none => (none, list)
    | some selector =>
      let (selection, selector) := selector.evaluate value
      (some selection,
        { list with selectors := list.selectors.setIfInBounds handle selector })

def select (text : String) (value : Json) : Recency (Except ParseError Selection) := do
  match ← compile text with
  | .error error => return .error error
  | .ok handle => return .ok ((← evaluate handle value).getD .empty)

/-- The nodes of a text on a value, if the text reads and selects any. -/
def nodes? (text : String) (value : Json) : Recency (Option (List Node)) := do
  match ← select text value with
  | .error _ => return none
  | .ok (.nodes []) => return none
  | .ok selection => return some selection.toList

def clear : Recency Unit := modify fun list => { list with held := [] }

end RecencyList

end JsonQuery
