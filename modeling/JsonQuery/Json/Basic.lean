import JsonQuery.Binary64.Rounding

/-! JSON values, the numbers in them, and positions of values inside a value. -/

namespace JsonQuery

/-- A JSON number: an integer as it was written, or a double. -/
inductive Number where
  | integer (value : Int)
  | float (value : Binary64.Finite)
deriving DecidableEq

/-- The number as a double, an integer being rounded to the nearest one. -/
def Number.toBinary64 : Number → Binary64
  | integer value => Binary64.ofInt value
  | float value => .finite value

/-- The place of a number in the numeric order; both zeros have rank zero. -/
def Number.rank (number : Number) : Int := number.toBinary64.rank?.getD 0

inductive Json where
  | null
  | bool (value : Bool)
  | number (value : Number)
  | string (text : String)
  | array (items : List Json)
  | object (members : List (String × Json))

/-- Where a value lies inside another one: at each level, how many siblings precede it. -/
abbrev Position := List Nat

namespace Json

/-- The elements of an array or the member values of an object. -/
def children : Json → List Json
  | array items => items
  | object members => members.map (·.2)
  | _ => []

def keys : Json → List String
  | object members => members.map (·.1)
  | _ => []

/-- In a value and in all that lies in it, the members of an object are listed in the order
of their keys, each key once. -/
inductive Ordered : Json → Prop where
  | intro {value : Json} (keys : value.keys.Pairwise (· < ·))
      (children : ∀ child ∈ value.children, Ordered child) : Ordered value

/-- The number of members before the one with the given key. -/
def memberIndex? (name : String) : Json → Option Nat
  | object members => members.findIdx? (·.1 == name)
  | _ => none

def at? : Json → Position → Option Json
  | value, [] => some value
  | value, index :: rest => (value.children[index]?).bind (·.at? rest)

section Ordered

variable {value part : Json} {name other : String} {index later : Nat}

theorem ordered_of_leaf (keyless : value.keys = []) (empty : value.children = []) :
    value.Ordered :=
  ⟨keyless ▸ .nil, empty ▸ fun _ listed => nomatch listed⟩

theorem ordered_array {items : List Json} (ordered : ∀ item ∈ items, item.Ordered) :
    (array items).Ordered :=
  ⟨.nil, ordered⟩

/-- All parts of an ordered value are ordered. -/
theorem Ordered.of_at? {position : Position} (ordered : value.Ordered)
    (found : value.at? position = some part) : part.Ordered := by
  induction position generalizing value with
  | nil => exact Option.some.inj found ▸ ordered
  | cons index rest ih =>
    obtain ⟨child, listed, below⟩ := Option.bind_eq_some_iff.mp found
    obtain ⟨_, children⟩ := ordered
    exact ih (children child (List.mem_of_getElem? listed)) below

theorem Ordered.lt_of_lt (ordered : value.Ordered) (first : value.keys[index]? = some name)
    (second : value.keys[later]? = some other) (before : index < later) : name < other := by
  obtain ⟨keys, _⟩ := ordered
  obtain ⟨inside, rfl⟩ := List.getElem?_eq_some_iff.mp first
  obtain ⟨insideToo, rfl⟩ := List.getElem?_eq_some_iff.mp second
  exact List.pairwise_iff_getElem.mp keys index later inside insideToo before

/-- In an ordered value the order of members is that of their keys. -/
theorem Ordered.lt_iff (ordered : value.Ordered) (first : value.keys[index]? = some name)
    (second : value.keys[later]? = some other) : name < other ↔ index < later := by
  refine ⟨fun less => ?_, ordered.lt_of_lt first second⟩
  rcases Nat.lt_trichotomy index later with before | rfl | behind
  · exact before
  · obtain rfl := Option.some.inj (first.symm.trans second)
    exact absurd less (String.lt_irrefl name)
  · exact absurd (ordered.lt_of_lt second first behind) (String.lt_asymm less)

theorem memberIndex?_eq_findIdx? (value : Json) (name : String) :
    value.memberIndex? name = value.keys.findIdx? (· == name) := by
  cases value with
  | object members => rw [memberIndex?, keys, List.findIdx?_map]; rfl
  | null | bool | number | string | array => rfl

/-- In an ordered value a key leads to the only member that has it. -/
theorem Ordered.memberIndex?_eq_some_iff (ordered : value.Ordered) :
    value.memberIndex? name = some index ↔ value.keys[index]? = some name := by
  rw [memberIndex?_eq_findIdx?, List.findIdx?_eq_some_iff_getElem]
  constructor
  · rintro ⟨inside, same, _⟩
    exact List.getElem?_eq_some_iff.mpr ⟨inside, beq_iff_eq.mp same⟩
  · intro listed
    obtain ⟨inside, same⟩ := List.getElem?_eq_some_iff.mp listed
    refine ⟨inside, beq_iff_eq.mpr same, fun earlier before found => ?_⟩
    have listedEarlier : value.keys[earlier]? = some name :=
      List.getElem?_eq_some_iff.mpr ⟨Nat.lt_trans before inside, beq_iff_eq.mp found⟩
    exact String.lt_irrefl name (ordered.lt_of_lt listedEarlier listed before)

end Ordered

/-- The child that a key leads to: the member of that name, or the element with
that decimal index. -/
def keyIndex? (value : Json) (key : String) : Option Nat :=
  match value with
  | array _ => readIndex? key.toList
  | _ => value.memberIndex? key
where
  /-- An index is written in decimal digits, with at most a plus sign in front. -/
  readIndex? (text : List Char) : Option Nat :=
    let digits := match text with
      | '+' :: rest => rest
      | _ => text
    if digits ≠ [] ∧ digits.all Char.isDigit then some (Nat.ofDigitChars 10 digits 0) else none

/-- Follow keys downwards to a value and its position. -/
def follow? (value : Json) : List String → Option (Position × Json)
  | [] => some ([], value)
  | key :: rest => do
    let index ← value.keyIndex? key
    let child ← value.children[index]?
    let (position, found) ← child.follow? rest
    return (index :: position, found)

/-- The key or index, as text, of each step on the way to a position. -/
def keysTo : Json → Position → List String
  | _, [] => []
  | value, index :: rest =>
    let key := match value with
      | object members => (members[index]?).elim "" (·.1)
      | _ => toString index
    key :: (value.children[index]?).elim [] (·.keysTo rest)

/-- A JSON pointer: every key after a slash, with slash and tilde escaped. -/
def pointer (value : Json) (position : Position) : String :=
  String.join ((value.keysTo position).map fun key =>
    "/" ++ String.ofList (key.toList.flatMap escapeKey))
where
  /-- The tilde and the slash are the two characters that a pointer escapes. -/
  escapeKey : Char → List Char
    | '~' => ['~', '0']
    | '/' => ['~', '1']
    | char => [char]

end Json

end JsonQuery
