import JsonQuery.Proofs.Query.ChainReading
import JsonQuery.Proofs.Query.Operands

/-! The reader of expressions accepts the grammar and nothing else. What it accepts is
derived from the tokens it takes, within both bounds of nesting. -/

namespace JsonQuery

namespace Parse

/-- Reads an operand at a cursor. -/
abbrev Reader := Cursor → Except ParseError (Measured × Cursor)

/-- The second cursor is behind some tokens of the first one. -/
def Cursor.Takes (cursor : Cursor) (tokens : List Token) (next : Cursor) : Prop :=
  cursor.rest = tokens ++ next.rest ∧ next.position = cursor.position + tokens.length

theorem Cursor.Takes.append {cursor middle next : Cursor} {tokens more : List Token}
    (first : cursor.Takes tokens middle) (second : middle.Takes more next) :
    cursor.Takes (tokens ++ more) next := by
  constructor
  · rw [first.1, second.1, List.append_assoc]
  · rw [second.2, first.2, List.length_append, Nat.add_assoc]

theorem Cursor.Takes.nothing (cursor : Cursor) : cursor.Takes [] cursor := ⟨rfl, rfl⟩

theorem Cursor.Takes.one (position : Nat) (token : Token) (rest : List Token) :
    Takes ⟨position, token :: rest⟩ [token] ⟨position + 1, rest⟩ := ⟨rfl, rfl⟩

/-- What was read between two cursors is derived from the tokens between them, nested
within a budget and measured with its true height. -/
inductive ReadAs (phrase : Phrase) (budget : Nat) (cursor : Cursor) (result : Measured)
    (next : Cursor) : Prop where
  | derived {tokens : List Token} {expression : Expression} {depth : Nat}
      (taken : cursor.Takes tokens next) (derives : Derives phrase tokens expression depth)
      (within : depth ≤ budget) (fits : expression.height ≤ maxNesting)
      (measured : measure expression = result)

/-- The same for operands behind a first one. -/
inductive ReadOthersAs (budget : Nat) (cursor : Cursor) (others : List (Connective × Measured))
    (next : Cursor) : Prop where
  | derived {tokens : List Token} {rest : List (Connective × Expression)} {depth : Nat}
      (taken : cursor.Takes tokens next) (derives : OperandsDerive rest tokens depth)
      (within : depth ≤ budget) (fits : ∀ operand ∈ rest, operand.2.height ≤ maxNesting)
      (measured : rest.map measureRight = others)

/-- A reader reads nothing but operands. -/
def ReadsOperands (budget : Nat) (operand : Reader) : Prop :=
  ∀ cursor measured next, operand cursor = .ok (measured, next) →
    ReadAs .operand budget cursor measured next

theorem bounded_eq_ok {position : Nat} {expression : Expression} {result : Measured}
    (done : bounded position expression = .ok result) :
    expression.height ≤ maxNesting ∧ measure expression = result := by
  by_cases fits : expression.height ≤ maxNesting
  · rw [bounded_of_le position fits] at done
    exact ⟨fits, Except.ok.inj done⟩
  · rw [bounded_of_lt position (Nat.lt_of_not_le fits)] at done
    cases done

theorem connective?_eq_some {tokens rest : List Token} {connective : Connective}
    (found : connective? tokens = some (connective, rest)) : tokens = connective.token :: rest := by
  unfold connective? at found
  split at found
  · cases found; rfl
  · cases found; rfl
  · cases found

theorem ReadOthersAs.nothing (budget : Nat) (cursor : Cursor) :
    ReadOthersAs budget cursor [] cursor :=
  .derived (.nothing cursor) .nil (Nat.zero_le _) (List.forall_mem_nil _) rfl

theorem ReadOthersAs.cons {budget : Nat} {cursor middle next : Cursor} {right : Measured}
    {others : List (Connective × Measured)} {connective : Connective} {behind : List Token}
    (found : cursor.rest = connective.token :: behind)
    (operand : ReadAs .operand budget (cursor.skip behind) right middle)
    (behindOperand : ReadOthersAs budget middle others next) :
    ReadOthersAs budget cursor ((connective, right) :: others) next := by
  obtain ⟨taken, derives, within, fits, rfl⟩ := operand
  obtain ⟨othersTaken, othersDerive, othersWithin, othersFit, rfl⟩ := behindOperand
  have sign : cursor.Takes [connective.token] (cursor.skip behind) := ⟨found, rfl⟩
  have whole := OperandsDerive.cons connective derives othersDerive
  exact .derived (sign.append (taken.append othersTaken)) whole
    (Nat.max_le.mpr ⟨within, othersWithin⟩) (List.forall_mem_cons.mpr ⟨fits, othersFit⟩) rfl

theorem readOperands_sound {budget : Nat} {operand : Reader} (reads : ReadsOperands budget operand)
    {rounds : Nat} {cursor next : Cursor} {others : List (Connective × Measured)}
    (read : readOperands operand rounds cursor = .ok (others, next)) :
    ReadOthersAs budget cursor others next := by
  fun_induction readOperands operand rounds cursor generalizing others with
  | case1 | case2 => cases read; exact .nothing budget _
  | case3 cursor rounds connective behind found ih =>
    obtain ⟨⟨right, middle⟩, readRight, read⟩ := ok_of_bind read
    obtain ⟨⟨others, last⟩, readOthers, read⟩ := ok_of_bind read
    cases read
    exact .cons (connective?_eq_some found) (reads _ _ _ readRight) (ih middle readOthers)

theorem readJoined_sound {budget : Nat} {operand : Reader} (reads : ReadsOperands budget operand)
    {cursor next : Cursor} {whole : Measured} (read : readJoined operand cursor = .ok (whole, next)) :
    ReadAs .disjunction budget cursor whole next := by
  obtain ⟨⟨first, middle⟩, readFirst, read⟩ := ok_of_bind read
  obtain ⟨⟨others, last⟩, readOthers, read⟩ := ok_of_bind read
  obtain ⟨joined, combined, read⟩ := ok_of_bind read
  cases read
  obtain ⟨taken, derives, within, fits, rfl⟩ := reads _ _ _ readFirst
  obtain ⟨othersTaken, othersDerive, othersWithin, othersFit, rfl⟩ :=
    readOperands_sound reads readOthers
  rw [combine_measure next.position fits othersFit] at combined
  obtain ⟨wholeFits, measured⟩ := bounded_eq_ok combined
  have flat := FlatDerives.flat derives othersDerive
  exact .derived (taken.append othersTaken) flat.derives
    (Nat.max_le.mpr ⟨within, othersWithin⟩) wholeFits measured

theorem readGroup_sound {budget : Nat} {operand : Reader} (reads : ReadsOperands budget operand)
    {cursor next : Cursor} {behind : List Token} {inner : Measured}
    (opening : cursor.rest = .opening :: behind)
    (read : readGroup cursor.position operand (cursor.skip behind) = .ok (inner, next)) :
    ReadAs .operand (budget + 1) cursor inner next := by
  obtain ⟨⟨whole, last⟩, readInner, read⟩ := ok_of_bind read
  obtain ⟨taken, derives, within, fits, rfl⟩ := readJoined_sound reads readInner
  dsimp only at read
  split at read
  · rename_i rest closing
    cases read
    have opened : cursor.Takes [.opening] (cursor.skip behind) := ⟨opening, rfl⟩
    have closed : last.Takes [.closing] (last.skip rest) := ⟨closing, rfl⟩
    exact .derived (opened.append (taken.append closed)) (.group derives)
      (Nat.succ_le_succ within) fits rfl
  · cases read

theorem readNegation_sound {budget : Nat} {operand : Reader} (reads : ReadsOperands budget operand)
    {cursor next : Cursor} {behind : List Token} {result : Measured}
    (negation : cursor.rest = .negation :: behind)
    (read : readNegation operand (cursor.skip behind) = .ok (result, next)) :
    ReadAs .operand (budget + 1) cursor result next := by
  obtain ⟨⟨inner, last⟩, readInner, read⟩ := ok_of_bind read
  obtain ⟨built, within, read⟩ := ok_of_bind read
  cases read
  obtain ⟨taken, derives, depthWithin, fits, rfl⟩ := reads _ _ _ readInner
  have checked : bounded next.position (.negation _) = .ok result := within
  obtain ⟨wholeFits, measured⟩ := bounded_eq_ok checked
  have sign : cursor.Takes [.negation] (cursor.skip behind) := ⟨negation, rfl⟩
  exact .derived (sign.append taken) (.negation derives) (Nat.succ_le_succ depthWithin) wholeFits
    measured

theorem readChain_sound {budget : Nat} {cursor next : Cursor} {result : Measured}
    (read : readChain cursor = .ok (result, next)) : ReadAs .operand budget cursor result next := by
  obtain ⟨⟨segments, last⟩, readSegments, read⟩ := ok_of_bind read
  cases read
  obtain ⟨run, split, moved, formed, _⟩ := readSegments_sound (.dots (List.forall_mem_nil _))
    readSegments
  rw [List.nil_append] at formed
  exact .derived ⟨split, moved⟩ (.chain formed) (Nat.zero_le _)
    (Nat.le_add_left 1 255) rfl

theorem readOperand_sound (budget : Nat) : ReadsOperands budget (readOperand budget) := by
  induction budget with
  | zero =>
    intro cursor result next read
    unfold readOperand at read
    split at read
    · contradiction
    · contradiction
    · cases read
    · cases read
    · exact readChain_sound read
  | succ budget ih =>
    intro cursor result next read
    unfold readOperand at read
    split at read
    · rename_i same sign
      cases same
      exact readNegation_sound ih sign read
    · rename_i same sign
      cases same
      exact readGroup_sound ih sign read
    · contradiction
    · contradiction
    · exact readChain_sound read

end Parse

/-- An accepted sequence of tokens is derived as a whole, within both bounds. -/
theorem Expression.ofTokens_sound {tokens : List Token} {expression : Expression}
    (read : ofTokens tokens = .ok expression) :
    ∃ depth, Derives .disjunction tokens expression depth ∧ depth ≤ maxNesting ∧
      expression.height ≤ maxNesting := by
  obtain ⟨⟨whole, next⟩, joined, read⟩ := Parse.ok_of_bind read
  obtain ⟨⟨split, _⟩, derives, within, fits, rfl⟩ :=
    Parse.readJoined_sound (Parse.readOperand_sound maxNesting) joined
  dsimp only at read
  split at read
  · rename_i finished
    cases read
    rw [List.isEmpty_iff.mp finished, List.append_nil] at split
    cases split
    exact ⟨_, derives, within, fits⟩
  · cases read

end JsonQuery
