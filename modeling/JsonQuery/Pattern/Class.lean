import JsonQuery.Pattern.Escape

/-! Bracketed classes: ranges, nested and named classes, and the set operations
between them, which have one precedence and associate to the left. -/

namespace JsonQuery

/-- The operations between the operands of a class. -/
inductive ClassOperation where
  | intersection
  | difference
  | symmetricDifference

def ClassOperation.combine : ClassOperation → CharSet → CharSet → CharSet
  | intersection => .intersection
  | difference => .difference
  | symmetricDifference => .symmetricDifference

namespace PatternClass

open PatternSource

/-- A set, and how deeply its description is nested. -/
structure Nested where
  set : CharSet
  depth : Nat

/-- The items of one operand, the last one first. -/
abbrev Items := List Nested

/-- The union of items; two or more of them count as one more level. -/
def Items.union (items : Items) : Nested :=
  let depth := items.foldl (fun depth item => max depth item.depth) 0
  ⟨.unions (items.map Nested.set), if 2 ≤ items.length then depth + 1 else depth⟩

/-- The set with all that differs from a member only in case, if case is ignored. -/
def foldCase (flags : PatternFlags) (set : CharSet) : CharSet :=
  if !flags.ignoreCase then set
  else if flags.ascii then .foldedAscii set else .folded set

/-- Without Unicode a class has to be made of ASCII characters. -/
def isAscii (set : CharSet) : Bool :=
  (List.range 128).all fun offset => !set.contains (Char.ofNat (128 + offset))

/-- A whole class or a named one: folded first and negated then. -/
def finish (negated : Bool) (set : CharSet) : PatternReading CharSet := do
  let flags ← currentFlags
  let folded := foldCase flags set
  let finished := if negated then .complement folded else folded
  if flags.ascii && !isAscii finished then failure else return finished

/-- An operand behind an operation on what comes before it. -/
def operate (flags : PatternFlags) (pending : Option (ClassOperation × Nested))
    (operand : Nested) : Nested :=
  match pending with
  | none => operand
  | some (operation, left) =>
    ⟨operation.combine (foldCase flags left.set) (foldCase flags operand.set),
      max left.depth operand.depth + 1⟩

/-- Read a named class at its inner bracket, if there is one. -/
def named? (text : List Char) : Option (Bool × CharSet × List Char) :=
  match text with
  | '[' :: ':' :: rest =>
    let (negated, rest) := match rest with
      | '^' :: rest => (true, rest)
      | _ => (false, rest)
    match rest.dropWhile (· != ':') with
    | ':' :: ']' :: after =>
      (CharSet.named? (String.ofList (rest.takeWhile (· != ':')))).map fun set =>
        (negated, set, after)
    | _ => none
  | _ => none

def readPrimitive : PatternReading PatternPrimitive := do
  match ← remaining with
  | '\\' :: rest =>
    continueAt rest
    PatternPrimitive.readEscape
  | char :: rest =>
    continueAt rest
    return .literal char false
  | [] => failure

/-- The character of a literal, the only primitive at the end of a range. -/
def literalChar (primitive : PatternPrimitive) : PatternReading Char := do
  match primitive with
  | .literal char _ =>
    if (← currentFlags).ascii && 0x80 ≤ char.toNat then failure else return char
  | _ => failure

def primitiveSet (primitive : PatternPrimitive) : PatternReading CharSet := do
  match primitive with
  | .literal _ _ => return .only (← literalChar primitive)
  | _ =>
    match primitive.classSet? (← currentFlags).ascii with
    | some set => return set
    | none => failure

/-- The character that tells the meaning of a hyphen before a text. In spacious mode it
comes behind blanks and at most one hash sign, so that the first letter of a comment
counts like any other character. -/
def charBehindHyphen? (spacious : Bool) (text : List Char) : Option Char :=
  if !spacious then text.head?
  else
    match text.dropWhile Text.isBlank with
    | '#' :: rest => (rest.dropWhile Text.isBlank).head?
    | rest => rest.head?

/-- The text goes on with the hyphen of a range, which is not followed by a closing
bracket or by another hyphen. -/
def isRange (spacious : Bool) : List Char → Bool
  | '-' :: rest => (charBehindHyphen? spacious rest).all fun next => next != ']' && next != '-'
  | _ => false

def readRange : PatternReading CharSet := do
  let first ← readPrimitive
  skipSpace
  let rest ← remaining
  if isRange (← currentFlags).spacious rest then
    continueBehindGap rest.tail
    let last ← readPrimitive
    let first ← literalChar first
    let last ← literalChar last
    if first ≤ last then return .range first last else failure
  else primitiveSet first

/-- Skip the hyphens that a class may start with; they are literals. -/
def readHyphens (budget : Nat) : PatternReading Items := do
  match budget, ← remaining with
  | budget + 1, '-' :: rest =>
    continueBehindGap rest
    return ⟨.only '-', 0⟩ :: (← readHyphens budget)
  | _, _ => return []

/-- Read the opening bracket of a class, its negation, and the characters that are
literals only at its start. -/
def readOpening : PatternReading (Bool × Items) := do
  expect '['
  skipSpace
  let negated ← match ← remaining with
    | '^' :: rest => do
      continueBehindGap rest
      pure true
    | _ => pure false
  let hyphens ← readHyphens (← remaining).length
  match hyphens, ← remaining with
  | [], ']' :: rest =>
    continueBehindGap rest
    return (negated, [⟨.only ']', 0⟩])
  | _, _ => return (negated, hyphens)

def operation? : List Char → Option (ClassOperation × List Char)
  | '&' :: '&' :: rest => some (.intersection, rest)
  | '-' :: '-' :: rest => some (.difference, rest)
  | '~' :: '~' :: rest => some (.symmetricDifference, rest)
  | _ => none

mutual

/-- Read a class at its opening bracket. The budget bounds the steps of reading. -/
def readClass (budget : Nat) : PatternReading Nested := do
  match budget with
  | 0 => failure
  | budget + 1 =>
    let (negated, items) ← readOpening
    readBody budget negated none items

def readBody (budget : Nat) (negated : Bool) (pending : Option (ClassOperation × Nested))
    (items : Items) : PatternReading Nested := do
  match budget with
  | 0 => failure
  | budget + 1 =>
    skipSpace
    let text ← remaining
    match text, named? text, operation? text with
    | [], _, _ => failure
    | _, some (inverse, set, rest), _ =>
      continueAt rest
      readBody budget negated pending (⟨← finish inverse set, 0⟩ :: items)
    | '[' :: _, none, _ =>
      let inner ← readClass budget
      readBody budget negated pending (inner :: items)
    | ']' :: rest, _, _ =>
      continueAt rest
      let body := operate (← currentFlags) pending (Items.union items)
      return ⟨← finish negated body.set, body.depth + 1⟩
    | _, _, some (operation, rest) =>
      continueAt rest
      let left := operate (← currentFlags) pending (Items.union items)
      readBody budget negated (some (operation, left)) []
    | _, _, none =>
      let set ← readRange
      readBody budget negated pending (⟨set, 0⟩ :: items)

end

end PatternClass

end JsonQuery
