import JsonQuery.Query.Slice

/-! The tokens of a selector text. Characters that start no token are dropped. The scanner
has a failure for steps that take nothing, but there are no such steps. -/

namespace JsonQuery

/-- A token. The text between brackets is a slice if it reads as one and the raw
text of a filter otherwise. -/
inductive Token where
  | dot
  | opening
  | closing
  | both
  | either
  | negation
  | wildcard
  | deepWildcard
  | filter (text : String)
  | slice (value : Slice)
  | property (name : String)
deriving DecidableEq

namespace Token

def punctuation? : Char → Option Token
  | '.' => some dot
  | '(' => some opening
  | ')' => some closing
  | '&' => some both
  | '|' => some either
  | '!' => some negation
  | _ => none

/-- A name starts with an ASCII letter, an underscore or a dollar sign. -/
def isNameStart (char : Char) : Bool := char.isAlpha || char = '_' || char = '$'

/-- The later characters of a name may be ASCII digits as well. -/
def isNamePart (char : Char) : Bool := isNameStart char || char.isDigit

/-- Cut a text at the closing bracket that finds no inner bracket unclosed. Without
it the whole text is the content. -/
def splitBracket (unclosed : Nat) : List Char → List Char × List Char
  | [] => ([], [])
  | char :: rest =>
    if char = ']' ∧ unclosed = 0 then ([], rest)
    else
      let (content, after) := splitBracket
        (if char = '[' then unclosed + 1 else if char = ']' then unclosed - 1 else unclosed) rest
      (char :: content, after)

/-- The token of the text between brackets. -/
def ofBracket (content : List Char) : Token :=
  match Slice.read? content with
  | some value => slice value
  | none => filter (String.ofList content)

theorem length_splitBracket_le (unclosed : Nat) (text : List Char) :
    (splitBracket unclosed text).2.length ≤ text.length := by
  fun_induction splitBracket unclosed text with
  | case1 => simp
  | case2 => simp
  | case3 unclosed char rest _ content after same ih =>
    rw [same] at ih
    exact Nat.le_succ_of_le ih

/-- Take the longest token that starts with a character, or drop the character if
none does: the token and the text after it. -/
def next (char : Char) (rest : List Char) : Option Token × List Char :=
  if char = '[' then
    let (content, after) := splitBracket 0 rest
    (some (ofBracket content), after)
  else if char = '*' then
    match rest with
    | '*' :: after => (some deepWildcard, after)
    | _ => (some wildcard, rest)
  else match punctuation? char with
    | some token => (some token, rest)
    | none =>
      if isNameStart char then
        (some (property (String.ofList (char :: rest.takeWhile isNamePart))),
          rest.dropWhile isNamePart)
      else (none, rest)

theorem length_next_le (char : Char) (rest : List Char) :
    (next char rest).2.length ≤ rest.length := by
  unfold next
  split
  · exact length_splitBracket_le 0 rest
  · split
    · split
      · exact Nat.le_add_right _ 1
      · exact Nat.le_refl _
    · split
      · exact Nat.le_refl _
      · split
        · exact (List.dropWhile_suffix isNamePart).length_le
        · exact Nat.le_refl _

/-- Take what stands at the front of a text. Only an empty text has nothing there. -/
def front? : List Char → Option (Option Token × List Char)
  | [] => none
  | char :: rest => some (next char rest)

/-- Why there are no tokens: a step has left the text as long as it was. -/
inductive ScanError where
  | stalled

/-- Take steps from the front of a text until there is nothing to take. -/
def collect (step : List Char → Option (Option Token × List Char)) (text : List Char) :
    Except ScanError (List Token) :=
  match step text with
  | none => .ok []
  | some (token, after) =>
    if after.length < text.length then (collect step after).map (token.toList ++ ·)
    else .error .stalled
termination_by text.length

/-- The tokens of a text; none if a step stalls. -/
def scan (text : List Char) : List Token :=
  match collect front? text with
  | .ok tokens => tokens
  | .error .stalled => []

theorem collect_nil : collect front? [] = .ok [] := by
  rw [collect, front?]

theorem collect_cons (char : Char) (rest : List Char) :
    collect front? (char :: rest) =
      (collect front? (next char rest).2).map ((next char rest).1.toList ++ ·) := by
  have shorter : (next char rest).2.length < (char :: rest).length :=
    Nat.lt_succ_of_le (length_next_le char rest)
  rw [collect, front?]
  exact if_pos shorter

/-- No step stalls, for each takes one character at least. -/
theorem exists_collect (text : List Char) : ∃ tokens, collect front? text = .ok tokens := by
  match text with
  | [] => exact ⟨[], collect_nil⟩
  | char :: rest =>
    obtain ⟨later, collected⟩ := exists_collect (next char rest).2
    refine ⟨(next char rest).1.toList ++ later, ?_⟩
    rw [collect_cons, collected]
    rfl
termination_by text.length
decreasing_by exact Nat.lt_succ_of_le (length_next_le char rest)

theorem collect_eq_scan (text : List Char) : collect front? text = .ok (scan text) := by
  obtain ⟨tokens, collected⟩ := exists_collect text
  rw [scan, collected]

theorem scan_nil : scan [] = [] := by
  rw [scan, collect_nil]

theorem scan_cons (char : Char) (rest : List Char) :
    scan (char :: rest) = (next char rest).1.toList ++ scan (next char rest).2 := by
  have collected := collect_eq_scan (char :: rest)
  rw [collect_cons, collect_eq_scan] at collected
  exact (Except.ok.inj collected).symm

end Token

end JsonQuery
