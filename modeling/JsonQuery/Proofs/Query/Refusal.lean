import JsonQuery.Proofs.Query.Lookahead

/-! Where a sequence of tokens is refused. The position of an error is that of the token to blame,
and most errors stand whatever comes behind that token: only a group may still be closed, and
nesting is measured where operands are joined. -/

namespace JsonQuery

/-- What an error says of the token at its position. Nothing is wrong before an unexpected token, so
that the tokens before it are accepted. -/
def Fault.Blames (fault : Fault) (tokens : List Token) (position : Nat) : Prop :=
  match fault with
  | filterWithoutSegment => ∃ text, tokens[position]? = some (.filter text)
  | sliceWithoutProperty => ∃ value, tokens[position]? = some (.slice value)
  | unclosedGroup => tokens[position]? = some .opening
  | unexpectedToken => ∃ token, tokens[position]? = some token ∧ token ≠ .both ∧ token ≠ .either ∧
      ∃ expression, Expression.ofTokens (tokens.take position) = .ok expression
  | nestingTooDeep => position ≤ tokens.length

theorem Fault.StandsAt.exists_token {fault : Fault} {rest : List Token} (stands : fault.StandsAt rest)
    (immediate : fault.isImmediate = true) : ∃ token, rest.head? = some token := by
  cases fault with
  | filterWithoutSegment | sliceWithoutProperty => exact stands.imp' _ fun _ found => found
  | unexpectedToken => exact stands.elim
  | unclosedGroup | nestingTooDeep => cases immediate

namespace Parse.Cursor.Takes

variable {tokens taken : List Token} {next : Cursor}

theorem take_eq (takes : Takes ⟨0, tokens⟩ taken next) : tokens.take next.position = taken := by
  have whole : tokens = taken ++ next.rest := takes.1
  have moved : next.position = taken.length := takes.2.trans (Nat.zero_add _)
  rw [whole, moved, List.take_left]

theorem position_le (takes : Takes ⟨0, tokens⟩ taken next) : next.position ≤ tokens.length := by
  have whole : tokens = taken ++ next.rest := takes.1
  rw [takes.2, whole, List.length_append, Nat.zero_add]
  exact Nat.le_add_right _ _

theorem head?_rest (takes : Takes ⟨0, tokens⟩ taken next) :
    next.rest.head? = tokens[next.position]? := by
  have whole : tokens = taken ++ next.rest := takes.1
  have moved : next.position = taken.length := takes.2.trans (Nat.zero_add _)
  rw [moved, whole, List.getElem?_append_right (Nat.le_refl _), Nat.sub_self,
    List.head?_eq_getElem?]

/-- The token where a reader stops, kept with those before it. -/
theorem take_succ_eq {token : Token} (takes : Takes ⟨0, tokens⟩ taken next)
    (stops : next.rest.head? = some token) :
    tokens.take (next.position + 1) = taken ++ [token] := by
  rw [List.take_add_one, takes.take_eq, ← takes.head?_rest, stops]
  rfl

end Parse.Cursor.Takes

namespace Expression

open Parse

variable {tokens : List Token} {fault : Fault} {position : Nat}

/-- An error either stops a reader, or all that it reads is a part of the tokens. -/
theorem refused_cases (refused : ofTokens tokens = .error ⟨fault, position⟩) :
    readJoined (readOperand maxNesting) ⟨0, tokens⟩ = .error ⟨fault, position⟩ ∨
      fault = .unexpectedToken ∧ ∃ whole token behind,
        readJoined (readOperand maxNesting) ⟨0, tokens⟩ =
          .ok (whole, ⟨position, token :: behind⟩) := by
  unfold ofTokens at refused
  cases read : readJoined (readOperand maxNesting) ⟨0, tokens⟩ with
  | error problem =>
    rw [read] at refused
    exact .inl (congrArg Except.error (Except.error.inj refused))
  | ok outcome =>
    obtain ⟨whole, place, rest⟩ := outcome
    rw [read] at refused
    cases rest with
    | nil => cases refused
    | cons token behind =>
      cases refused
      exact .inr ⟨rfl, whole, token, behind, rfl⟩

/-- An error of the reader blames the token where it stops. If the error is immediate, it stands
whatever comes behind that token. -/
theorem refused_by_reader
    (failed : readJoined (readOperand maxNesting) ⟨0, tokens⟩ = .error ⟨fault, position⟩) :
    fault.Blames tokens position ∧ (fault.isImmediate = true →
      ∀ more, ofTokens (tokens.take (position + 1) ++ more) = .error ⟨fault, position⟩) := by
  obtain ⟨taken, rest, takes, stands, again⟩ :=
    (looksAhead_readJoined (looksAhead_readOperand maxNesting) _).refused failed
  have found : rest.head? = tokens[position]? := takes.head?_rest
  refine ⟨?_, fun immediate more => ?_⟩
  · cases fault with
    | filterWithoutSegment | sliceWithoutProperty | unclosedGroup =>
      rw [Fault.StandsAt, found] at stands
      exact stands
    | unexpectedToken => exact stands.elim
    | nestingTooDeep => exact takes.position_le
  · obtain ⟨token, stops⟩ := stands.exists_token immediate
    have same := again immediate (token :: more) stops.symm
    have kept : tokens.take (position + 1) = taken ++ [token] := takes.take_succ_eq stops
    rw [kept, List.append_assoc, List.singleton_append, ofTokens, same]
    rfl

/-- A token behind a whole expression is refused, and the tokens before it are that expression. -/
theorem refused_behind {whole : Measured} {token : Token} {behind : List Token}
    (read : readJoined (readOperand maxNesting) ⟨0, tokens⟩ =
      .ok (whole, ⟨position, token :: behind⟩)) :
    Fault.unexpectedToken.Blames tokens position ∧
      ∀ more, ofTokens (tokens.take (position + 1) ++ more) =
        .error ⟨.unexpectedToken, position⟩ := by
  have looks := looksAhead_readOperand maxNesting
  obtain ⟨taken, takes, again⟩ := (looksAhead_readJoined looks _).done read
  obtain ⟨notBoth, notEither⟩ :=
    connective?_eq_none_iff.mp (connective?_of_readJoined looks read) token rfl
  have accepted : ofTokens (tokens.take position) = .ok whole.expression := by
    have alone := again [] (.inl rfl)
    have kept : tokens.take position = taken := takes.take_eq
    rw [List.append_nil] at alone
    rw [kept, ofTokens, alone]
    rfl
  refine ⟨⟨token, takes.head?_rest.symm, notBoth, notEither, _, accepted⟩, fun more => ?_⟩
  have same := again (token :: more) (.inr rfl)
  have kept : tokens.take (position + 1) = taken ++ [token] := takes.take_succ_eq rfl
  rw [kept, List.append_assoc, List.singleton_append, ofTokens, same]
  rfl

/-- Tokens are refused where the token to blame stands. A filter, a slice or a token that is not
expected there is refused whatever comes behind it. -/
theorem refused_at_token (refused : ofTokens tokens = .error ⟨fault, position⟩) :
    fault.Blames tokens position ∧
      (fault = .filterWithoutSegment ∨ fault = .sliceWithoutProperty ∨ fault = .unexpectedToken →
        ∀ more, ofTokens (tokens.take (position + 1) ++ more) = .error ⟨fault, position⟩) := by
  rcases refused_cases refused with failed | ⟨rfl, whole, token, behind, read⟩
  · obtain ⟨blames, stable⟩ := refused_by_reader failed
    refine ⟨blames, fun immediate => stable ?_⟩
    rcases immediate with rfl | rfl | rfl <;> rfl
  · obtain ⟨blames, stable⟩ := refused_behind read
    exact ⟨blames, fun _ => stable⟩

/-- In the tokens of `a.b(.c)` the parenthesis is to blame: whatever comes behind it, an expression
ends before it. -/
theorem refused_at_parenthesis :
    let tokens : List Token := [.property "a", .dot, .property "b", .opening, .dot, .property "c",
      .closing]
    ofTokens tokens = .error ⟨.unexpectedToken, 3⟩ ∧
      Fault.unexpectedToken.Blames tokens 3 ∧
      ∀ more, ofTokens ([.property "a", .dot, .property "b", .opening] ++ more) =
        .error ⟨.unexpectedToken, 3⟩ := by
  intro tokens
  have refused : ofTokens tokens = .error ⟨.unexpectedToken, 3⟩ := by rfl
  obtain ⟨blames, stable⟩ := refused_at_token refused
  exact ⟨refused, blames, stable (.inr (.inr rfl))⟩

end Expression

end JsonQuery
