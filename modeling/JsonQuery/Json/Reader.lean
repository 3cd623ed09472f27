import JsonQuery.Json.Basic
import JsonQuery.Binary64.Text
import JsonQuery.Text.Blank

/-! Reading JSON text. The members of an object are put in the order of their
keys, and of several members with one key the last is kept. A whole number that
fits 64 bits is an integer; every other number is a double. -/

namespace JsonQuery.Json

/-- Add a member at its place, replacing the one that has its key. -/
def insertMember (name : String) (value : Json) :
    List (String × Json) → List (String × Json)
  | [] => [(name, value)]
  | (key, held) :: rest =>
    if name < key then (name, value) :: (key, held) :: rest
    else if name = key then (name, value) :: rest
    else (key, held) :: insertMember name value rest

section InsertMember

variable {name : String} {value : Json} {members : List (String × Json)} {member : String × Json}

theorem mem_of_mem_insertMember (listed : member ∈ insertMember name value members) :
    member = (name, value) ∨ member ∈ members := by
  induction members with
  | nil => exact .inl (List.mem_singleton.mp listed)
  | cons first rest ih =>
    obtain ⟨key, held⟩ := first
    rw [insertMember] at listed
    split at listed
    · exact List.mem_cons.mp listed
    · split at listed
      · exact (List.mem_cons.mp listed).imp_right (List.mem_cons_of_mem _)
      · rcases List.mem_cons.mp listed with rfl | later
        · exact .inr List.mem_cons_self
        · exact (ih later).imp_right (List.mem_cons_of_mem _)

/-- Added members keep the order of the keys, each key once. -/
theorem pairwise_insertMember (ordered : members.Pairwise fun one other => one.1 < other.1) :
    (insertMember name value members).Pairwise fun one other => one.1 < other.1 := by
  induction members with
  | nil => exact List.pairwise_singleton _ _
  | cons first rest ih =>
    obtain ⟨key, held⟩ := first
    obtain ⟨above, restOrdered⟩ := List.pairwise_cons.mp ordered
    rw [insertMember]
    split
    · rename_i less
      refine List.pairwise_cons.mpr ⟨List.forall_mem_cons.mpr ⟨less, ?_⟩, ordered⟩
      exact fun member listed => String.lt_trans less (above member listed)
    · rename_i notLess
      split
      · rename_i same
        exact List.pairwise_cons.mpr ⟨same ▸ above, restOrdered⟩
      · rename_i different
        have less : key < name :=
          Std.lt_of_le_of_ne (String.not_lt.mp notLess) (Ne.symm different)
        refine List.pairwise_cons.mpr ⟨fun member listed => ?_, ih restOrdered⟩
        rcases mem_of_mem_insertMember listed with rfl | old
        · exact less
        · exact above member old

theorem ordered_insertMember (ordered : (object members).Ordered) (added : value.Ordered) :
    (object (insertMember name value members)).Ordered := by
  obtain ⟨keys, children⟩ := ordered
  refine ⟨?_, fun child listed => ?_⟩
  · exact List.pairwise_map.mpr (pairwise_insertMember (List.pairwise_map.mp keys))
  · obtain ⟨member, present, rfl⟩ := List.mem_map.mp listed
    rcases mem_of_mem_insertMember present with rfl | old
    · exact added
    · exact children member.2 (List.mem_map.mpr ⟨member, old, rfl⟩)

end InsertMember

private def skipGap (text : List Char) : List Char := text.dropWhile Text.isGap

private def hexValue? (char : Char) : Option Nat :=
  if char.isDigit then some (char.toNat - 48)
  else if 'a' ≤ char ∧ char ≤ 'f' then some (char.toNat - 87)
  else if 'A' ≤ char ∧ char ≤ 'F' then some (char.toNat - 55)
  else none

private def codeUnit? (a b c d : Char) : Option Nat := do
  return (((← hexValue? a) * 16 + (← hexValue? b)) * 16 + (← hexValue? c)) * 16 + (← hexValue? d)

/-- The character of two surrogate halves. -/
private def joinSurrogates? (high low : Nat) : Option Char :=
  if 0xD800 ≤ high ∧ high < 0xDC00 ∧ 0xDC00 ≤ low ∧ low < 0xE000 then
    some (Char.ofNat (0x10000 + (high - 0xD800) * 0x400 + (low - 0xDC00)))
  else none

/-- The characters of a string literal after its opening quote, and the text after
its closing quote. -/
private def readText? : List Char → Option (List Char × List Char)
  | '\x22' :: rest => some ([], rest)
  | '\\' :: 'u' :: a :: b :: c :: d :: rest => do
    let unit ← codeUnit? a b c d
    if 0xD800 ≤ unit ∧ unit < 0xE000 then
      match rest with
      | '\\' :: 'u' :: e :: f :: g :: h :: rest =>
        let char ← joinSurrogates? unit (← codeUnit? e f g h)
        let (chars, rest) ← readText? rest
        return (char :: chars, rest)
      | _ => none
    else
      let (chars, rest) ← readText? rest
      return (Char.ofNat unit :: chars, rest)
  | '\\' :: letter :: rest => do
    let char ← match letter with
      | 'b' => some '\x08'
      | 'f' => some '\x0c'
      | 'n' => some '\n'
      | 'r' => some '\r'
      | 't' => some '\t'
      | '/' => some '/'
      | '\\' => some '\\'
      | '\x22' => some '\x22'
      | _ => none
    let (chars, rest) ← readText? rest
    return (char :: chars, rest)
  | char :: rest =>
    if char.toNat < 0x20 then none
    else do
      let (chars, rest) ← readText? rest
      return (char :: chars, rest)
  | [] => none

/-- The digits of a whole part have no needless zero in front. -/
private def wholeOk (digits : List Char) : Bool :=
  match digits with
  | [] => false
  | ['0'] => true
  | first :: _ => first ≠ '0'

private def isNumberChar (char : Char) : Bool :=
  char.isDigit ∨ char = '.' ∨ char = 'e' ∨ char = 'E' ∨ char = '+' ∨ char = '-'

/-- A whole number that fits 64 bits, with or without a sign. -/
def isWide (value : Int) : Bool := Int64.minValue.toInt ≤ value ∧ value < UInt64.size

private def readFloat? (negative : Bool) (magnitude : List Char) : Option Number := do
  match Binary64.ofDecimal negative (← Decimal.read? magnitude) with
  | .finite value => some (.float value)
  | _ => none

def readNumber? (text : List Char) : Option Number :=
  let (negative, magnitude) := match text with
    | '-' :: rest => (true, rest)
    | _ => (false, text)
  let (whole, rest) := magnitude.span Char.isDigit
  let value : Int := Nat.ofDigitChars 10 whole 0
  let signed := if negative then -value else value
  if !wholeOk whole then none
  else match rest with
    | [] =>
      if isWide signed ∧ ¬ (negative ∧ value = 0) then some (.integer signed)
      else readFloat? negative magnitude
    | '.' :: after =>
      if (after.head?.map Char.isDigit).getD false then readFloat? negative magnitude else none
    | _ => readFloat? negative magnitude

mutual

/-- Read a value, and the text after it. The budget bounds the steps of reading. -/
private def readValue? (budget : Nat) (text : List Char) : Option (Json × List Char) :=
  match budget with
  | 0 => none
  | budget + 1 =>
    match skipGap text with
    | 'n' :: 'u' :: 'l' :: 'l' :: rest => some (null, rest)
    | 't' :: 'r' :: 'u' :: 'e' :: rest => some (bool true, rest)
    | 'f' :: 'a' :: 'l' :: 's' :: 'e' :: rest => some (bool false, rest)
    | '\x22' :: rest => do
      let (chars, rest) ← readText? rest
      return (string (String.ofList chars), rest)
    | '[' :: rest =>
      match skipGap rest with
      | ']' :: rest => some (array [], rest)
      | _ => do
        let (items, rest) ← readItems? budget rest
        return (array items, rest)
    | '\x7b' :: rest =>
      match skipGap rest with
      | '\x7d' :: rest => some (object [], rest)
      | _ => do
        let (members, rest) ← readMembers? budget [] rest
        return (object members, rest)
    | text => do
      let (digits, rest) := text.span isNumberChar
      return (number (← readNumber? digits), rest)

private def readItems? (budget : Nat) (text : List Char) : Option (List Json × List Char) :=
  match budget with
  | 0 => none
  | budget + 1 => do
    let (item, rest) ← readValue? budget text
    match skipGap rest with
    | ',' :: rest =>
      let (items, rest) ← readItems? budget rest
      return (item :: items, rest)
    | ']' :: rest => return ([item], rest)
    | _ => none

private def readMembers? (budget : Nat) (members : List (String × Json)) (text : List Char) :
    Option (List (String × Json) × List Char) :=
  match budget with
  | 0 => none
  | budget + 1 =>
    match skipGap text with
    | '\x22' :: rest => do
      let (name, rest) ← readText? rest
      match skipGap rest with
      | ':' :: rest =>
        let (value, rest) ← readValue? budget rest
        let members := insertMember (String.ofList name) value members
        match skipGap rest with
        | ',' :: rest => readMembers? budget members rest
        | '\x7d' :: rest => return (members, rest)
        | _ => none
      | _ => none
    | _ => none

end

/-- Read a value from the whole of a text. -/
def read? (text : String) : Option Json := do
  let (value, rest) ← readValue? (2 * text.length + 2) text.toList
  if (skipGap rest).isEmpty then some value else none

/-- Within the budget all that is read is ordered, and members are added to ordered ones. -/
private structure ReadsOrdered (budget : Nat) : Prop where
  value : ∀ {text value rest}, readValue? budget text = some (value, rest) → value.Ordered
  items : ∀ {text items rest}, readItems? budget text = some (items, rest) →
    ∀ item ∈ items, item.Ordered
  members : ∀ {before text members rest}, readMembers? budget before text = some (members, rest) →
    (object before).Ordered → (object members).Ordered

section Budget

variable {budget : Nat} {text rest : List Char}

private theorem ReadsOrdered.readValue? (reads : ReadsOrdered budget) {value : Json}
    (read : readValue? (budget + 1) text = some (value, rest)) : value.Ordered := by
  rw [Json.readValue?] at read
  split at read
  -- Arrays.
  case h_5 =>
    split at read
    · cases read
      exact ordered_of_leaf rfl rfl
    · obtain ⟨⟨items, _⟩, found, done⟩ := Option.bind_eq_some_iff.mp read
      cases done
      exact ordered_array (reads.items found)
  -- Objects, of which the first member is added to none.
  case h_6 =>
    split at read
    · cases read
      exact ordered_of_leaf rfl rfl
    · obtain ⟨⟨members, _⟩, found, done⟩ := Option.bind_eq_some_iff.mp read
      cases done
      exact reads.members found (ordered_of_leaf rfl rfl)
  -- Strings and numbers are what another reader has found.
  case h_4 | h_7 =>
    obtain ⟨_, _, done⟩ := Option.bind_eq_some_iff.mp read
    cases done
    exact ordered_of_leaf rfl rfl
  all_goals
    cases read
    exact ordered_of_leaf rfl rfl

private theorem ReadsOrdered.readItems? (reads : ReadsOrdered budget) {items : List Json}
    (read : readItems? (budget + 1) text = some (items, rest)) : ∀ item ∈ items, item.Ordered := by
  rw [Json.readItems?] at read
  obtain ⟨⟨item, after⟩, first, read⟩ := Option.bind_eq_some_iff.mp read
  have ordered := reads.value first
  dsimp only at read
  split at read
  · obtain ⟨⟨others, _⟩, later, done⟩ := Option.bind_eq_some_iff.mp read
    cases done
    exact List.forall_mem_cons.mpr ⟨ordered, reads.items later⟩
  · cases read
    exact List.forall_mem_singleton.mpr ordered
  · cases read

private theorem ReadsOrdered.readMembers? (reads : ReadsOrdered budget)
    {before members : List (String × Json)} (ordered : (object before).Ordered)
    (read : readMembers? (budget + 1) before text = some (members, rest)) :
    (object members).Ordered := by
  rw [Json.readMembers?] at read
  split at read
  · obtain ⟨⟨name, after⟩, _, read⟩ := Option.bind_eq_some_iff.mp read
    dsimp only at read
    split at read
    · obtain ⟨⟨value, behind⟩, found, read⟩ := Option.bind_eq_some_iff.mp read
      have grown : (object (insertMember (String.ofList name) value before)).Ordered :=
        ordered_insertMember ordered (reads.value found)
      dsimp only at read
      split at read
      · exact reads.members read grown
      · cases read
        exact grown
      · cases read
    · cases read
  · cases read

private theorem readsOrdered (budget : Nat) : ReadsOrdered budget := by
  induction budget with
  | zero => exact ⟨nofun, nofun, nofun⟩
  | succ budget ih =>
    exact ⟨ih.readValue?, ih.readItems?, fun read ordered => ih.readMembers? ordered read⟩

end Budget

/-- A value that is read from a text is ordered. -/
theorem ordered_of_read? {text : String} {value : Json} (read : read? text = some value) :
    value.Ordered := by
  obtain ⟨⟨found, rest⟩, first, read⟩ := Option.bind_eq_some_iff.mp read
  dsimp only at read
  split at read
  · cases read
    exact (readsOrdered _).value first
  · cases read

end JsonQuery.Json
