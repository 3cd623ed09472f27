import JsonQuery.Query.Expression
import JsonQuery.Query.ParseError

/-! Operands joined by connectives. A flat list of operands is folded in place, first at its
conjunctions and then at the disjunctions that are left, each time from the left. The height of
what is joined is bounded. -/

namespace JsonQuery

/-- The greatest nesting of groups and negations, and the greatest height. -/
def maxNesting : Nat := 256

namespace Parse

structure Measured where
  expression : Expression
  height : Nat

/-- Refuse a height beyond the bound. -/
def measured (position : Nat) (expression : Expression) (height : Nat) :
    Except ParseError Measured :=
  if maxNesting < height then .error ⟨.nestingTooDeep, position⟩
  else .ok ⟨expression, height⟩

def join (position : Nat) (connective : Connective) (left right : Measured) :
    Except ParseError Measured :=
  measured position (.joined connective left.expression right.expression)
    (max left.height right.height + 1)

/-- Why folding has no result: an expression is too high, an index lies outside a list, or there
are connectives to come after the last round. -/
inductive Halt where
  | refused (error : ParseError)
  | outside
  | unfinished

/-- The computation comes to its end and stays inside its lists: it gives a result or refuses. -/
def Concludes {α : Type} (computed : Except Halt α) : Prop :=
  computed ≠ .error .outside ∧ computed ≠ .error .unfinished

theorem concludes_ok {α : Type} (value : α) : Concludes (.ok value) := ⟨nofun, nofun⟩

theorem concludes_mapError {α : Type} (computed : Except ParseError α) :
    Concludes (computed.mapError .refused) := by
  cases computed <;> exact ⟨nofun, nofun⟩

theorem Concludes.bind {α β : Type} {step : Except Halt α} {more : α → Except Halt β}
    (first : Concludes step) (second : ∀ value, step = .ok value → Concludes (more value)) :
    Concludes (step >>= more) := by
  cases step with
  | error halt =>
    cases halt with
    | refused error => exact ⟨nofun, nofun⟩
    | outside => exact absurd rfl first.1
    | unfinished => exact absurd rfl first.2
  | ok value => exact second value rfl

/-- The result or the error of a computation that concludes. -/
def conclude {α : Type} : (computed : Except Halt α) → Concludes computed → Except ParseError α
  | .ok value, _ => .ok value
  | .error (.refused error), _ => .error error
  | .error .outside, concludes => absurd rfl concludes.1
  | .error .unfinished, concludes => absurd rfl concludes.2

theorem mapError_conclude {α : Type} (computed : Except Halt α) (concludes : Concludes computed) :
    (conclude computed concludes).mapError .refused = computed := by
  cases computed with
  | ok value => rfl
  | error halt =>
    cases halt with
    | refused error => rfl
    | outside => exact absurd rfl concludes.1
    | unfinished => exact absurd rfl concludes.2

/-- A computation that goes on after a step was successful in the step. -/
theorem ok_of_bind {ε α β : Type} {step : Except ε α} {more : α → Except ε β} {result : β}
    (done : step >>= more = .ok result) : ∃ value, step = .ok value ∧ more value = .ok result := by
  cases step with
  | error halt => cases done
  | ok value => exact ⟨value, rfl, done⟩

section Editing

variable {α : Type} {list rest before after : List α} {index : Nat} {member : α}

def takeOut (list : List α) (index : Nat) : Except Halt (α × List α) :=
  match list[index]? with
  | some member => .ok (member, list.eraseIdx index)
  | none => .error .outside

/-- Put a member into a list at an index, which is at most the length. -/
def putIn (list : List α) (index : Nat) (member : α) : Except Halt (List α) :=
  if index ≤ list.length then .ok (list.insertIdx index member) else .error .outside

theorem length_of_takeOut (taken : takeOut list index = .ok (member, rest)) :
    index < list.length ∧ rest.length + 1 = list.length := by
  unfold takeOut at taken
  split at taken
  · rename_i found
    cases taken
    obtain ⟨inside, _⟩ := List.getElem?_eq_some_iff.mp found
    have shorter := List.length_eraseIdx_of_lt inside
    omega
  · cases taken

theorem length_of_putIn (put : putIn list index member = .ok rest) :
    rest.length = list.length + 1 := by
  unfold putIn at put
  split at put
  · rename_i inside
    cases put
    exact List.length_insertIdx_of_le_length inside member
  · cases put

theorem takeOut_append (before : List α) (member : α) (after : List α) :
    takeOut (before ++ member :: after) before.length = .ok (member, before ++ after) := by
  simp [takeOut, List.eraseIdx_append_of_length_le]

theorem putIn_append (before after : List α) (member : α) :
    putIn (before ++ after) before.length member = .ok (before ++ member :: after) := by
  have inserted : (before ++ after).insertIdx before.length member = before ++ member :: after := by
    induction before with
    | nil => exact List.insertIdx_zero
    | cons first before ih => exact congrArg (first :: ·) ih
  simp [putIn, inserted]

end Editing

/-- Operands and the connectives between them while the conjunctions are folded, and the place of
the connective that comes next. -/
structure Folding where
  operands : List Measured
  connectives : List Connective
  place : Nat

namespace Folding

/-- Put the joined operands of the connective at the place for the two of them. -/
def contract (position : Nat) (folding : Folding) : Except Halt Folding := do
  let (right, operands) ← takeOut folding.operands (folding.place + 1)
  let (left, operands) ← takeOut operands folding.place
  let joined ← (join position .both left right).mapError .refused
  let operands ← putIn operands folding.place joined
  let (_, connectives) ← takeOut folding.connectives folding.place
  return { folding with operands, connectives }

/-- One round: a conjunction is folded, and a disjunction is passed by. -/
def round (position : Nat) (folding : Folding) : Except Halt Folding :=
  match folding.connectives[folding.place]? with
  | some .both => folding.contract position
  | some .either => .ok { folding with place := folding.place + 1 }
  | none => .error .outside

/-- The number of connectives that are still to come. -/
def remaining (folding : Folding) : Nat := folding.connectives.length - folding.place

/-- There is one operand more than there are connectives. -/
def Balanced (folding : Folding) : Prop :=
  folding.operands.length = folding.connectives.length + 1

variable {position : Nat} {folding next : Folding}

theorem length_of_contract (done : folding.contract position = .ok next) :
    next.place = folding.place ∧ next.operands.length + 1 = folding.operands.length ∧
      next.connectives.length + 1 = folding.connectives.length := by
  obtain ⟨⟨right, others⟩, takenRight, done⟩ := ok_of_bind done
  obtain ⟨⟨left, more⟩, takenLeft, done⟩ := ok_of_bind done
  obtain ⟨joined, _, done⟩ := ok_of_bind done
  obtain ⟨operands, put, done⟩ := ok_of_bind done
  obtain ⟨⟨connective, connectives⟩, taken, done⟩ := ok_of_bind done
  cases done
  have first := length_of_takeOut takenRight
  have second := length_of_takeOut takenLeft
  have third := length_of_putIn put
  have fourth := length_of_takeOut taken
  refine ⟨rfl, ?_, fourth.2⟩
  dsimp only
  omega

/-- A round deals with one connective, goes no further than behind the last one and keeps the
balance. -/
theorem of_round (done : folding.round position = .ok next) :
    next.remaining + 1 = folding.remaining ∧ next.place ≤ next.connectives.length ∧
      (folding.Balanced → next.Balanced) := by
  unfold round at done
  unfold remaining Balanced
  split at done
  · rename_i found
    obtain ⟨inside, _⟩ := List.getElem?_eq_some_iff.mp found
    have lengths := length_of_contract done
    omega
  · rename_i found
    obtain ⟨inside, _⟩ := List.getElem?_eq_some_iff.mp found
    cases done
    dsimp only
    omega
  · cases done

/-- Rounds up to the last connective, and the operands that are left then. -/
def run (position rounds : Nat) (folding : Folding) : Except Halt (List Measured) :=
  if folding.place < folding.connectives.length then
    match rounds with
    | 0 => .error .unfinished
    | rounds + 1 => do
      let next ← folding.round position
      run position rounds next
  else .ok folding.operands

theorem run_of_ended (ended : ¬ folding.place < folding.connectives.length) (rounds : Nat) :
    folding.run position rounds = .ok folding.operands := by
  rw [run.eq_def, if_neg ended]

theorem run_of_inside (inside : folding.place < folding.connectives.length) (rounds : Nat) :
    folding.run position (rounds + 1) = (do
      let next ← folding.round position
      next.run position rounds) := by
  rw [run, if_pos inside]

section Around

variable (position : Nat) (before : List Measured) (left right : Measured) (behind : List Measured)
  {signs : List Connective} (same : signs.length = before.length) (more : List Connective)

include same

theorem contract_append (sign : Connective) :
    contract position ⟨before ++ left :: right :: behind, signs ++ sign :: more, before.length⟩ =
      (do
        let joined ← (join position .both left right).mapError .refused
        return ⟨before ++ joined :: behind, signs ++ more, before.length⟩) := by
  have takenRight : takeOut (before ++ left :: right :: behind) (before.length + 1) =
      .ok (right, before ++ left :: behind) := by
    simpa using takeOut_append (before ++ [left]) right behind
  have takenLeft := takeOut_append before left behind
  have taken := takeOut_append signs sign more
  rw [same] at taken
  simp only [contract, takenRight, takenLeft, taken, putIn_append, bind, Except.bind]

theorem round_both :
    round position ⟨before ++ left :: right :: behind, signs ++ .both :: more, before.length⟩ =
      (do
        let joined ← (join position .both left right).mapError .refused
        return ⟨before ++ joined :: behind, signs ++ more, before.length⟩) := by
  rw [← contract_append position before left right behind same more .both, round]
  simp [← same]

theorem round_either (operands : List Measured) :
    round position ⟨operands, signs ++ .either :: more, before.length⟩ =
      .ok ⟨operands, signs ++ .either :: more, before.length + 1⟩ := by
  simp [round, ← same]

end Around

/-- Every connective of a balanced list has an operand on either side. -/
theorem Balanced.exists_around (balanced : folding.Balanced)
    (inside : folding.place < folding.connectives.length) :
    ∃ before left right behind signs sign more, signs.length = before.length ∧
      folding = ⟨before ++ left :: right :: behind, signs ++ sign :: more, before.length⟩ := by
  obtain ⟨operands, connectives, place⟩ := folding
  unfold Balanced at balanced
  dsimp only at balanced inside
  refine ⟨operands.take place, operands[place], operands[place + 1], operands.drop (place + 2),
    connectives.take place, connectives[place], connectives.drop (place + 1), ?_, ?_⟩
  · simp only [List.length_take]
    omega
  · have length : (operands.take place).length = place := by
      rw [List.length_take]
      omega
    rw [length, ← List.drop_eq_getElem_cons, ← List.drop_eq_getElem_cons,
      ← List.drop_eq_getElem_cons, List.take_append_drop, List.take_append_drop]

/-- A round of a balanced list stays inside both of its lists. -/
theorem Balanced.concludes_round (position : Nat) (balanced : folding.Balanced)
    (inside : folding.place < folding.connectives.length) :
    Concludes (folding.round position) := by
  obtain ⟨before, left, right, behind, signs, sign, more, same, rfl⟩ :=
    balanced.exists_around inside
  cases sign with
  | both =>
    rw [round_both position before left right behind same more]
    exact (concludes_mapError _).bind fun joined _ => concludes_ok _
  | either =>
    rw [round_either position before same more]
    exact concludes_ok _

/-- As many rounds as there are connectives are enough for all of them. -/
theorem Balanced.concludes_run (position : Nat) {rounds : Nat} (balanced : folding.Balanced)
    (enough : folding.remaining ≤ rounds) : Concludes (folding.run position rounds) := by
  induction rounds generalizing folding with
  | zero =>
    unfold remaining at enough
    rw [run_of_ended (by omega)]
    exact concludes_ok _
  | succ rounds ih =>
    by_cases inside : folding.place < folding.connectives.length
    · rw [run_of_inside inside]
      refine (balanced.concludes_round position inside).bind fun next done => ?_
      obtain ⟨less, _, kept⟩ := of_round done
      exact ih (kept balanced) (by omega)
    · rw [run_of_ended inside]
      exact concludes_ok _

end Folding

/-- Fold the conjunctions between operands, and then the disjunctions that are left. No operands at
all would be the empty chain. -/
def fold (position : Nat) (operands : List Measured) (connectives : List Connective) :
    Except Halt Measured := do
  match ← Folding.run position connectives.length ⟨operands, connectives, 0⟩ with
  | [] => return ⟨.chain [], 1⟩
  | first :: others => (others.foldlM (join position .either) first).mapError .refused

theorem concludes_fold (position : Nat) {operands : List Measured} {connectives : List Connective}
    (balanced : operands.length = connectives.length + 1) :
    Concludes (fold position operands connectives) := by
  have start : (⟨operands, connectives, 0⟩ : Folding).Balanced := balanced
  refine (start.concludes_run position (Nat.sub_le _ _)).bind fun left _ => ?_
  cases left with
  | nil => exact concludes_ok _
  | cons first others => exact concludes_mapError _

/-- Join operands, conjunctions first. -/
def combine (position : Nat) (first : Measured) (rest : List (Connective × Measured)) :
    Except ParseError Measured :=
  conclude (fold position (first :: rest.map (·.2)) (rest.map (·.1)))
    (concludes_fold position (by simp))

end Parse

end JsonQuery
