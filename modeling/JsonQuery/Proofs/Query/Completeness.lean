import JsonQuery.Proofs.Query.Soundness
import Mathlib.Tactic.Tauto

/-! The reader of expressions accepts everything that the grammar derives, except that it
answers that nesting is too deep exactly where one of the two bounds is exceeded. -/

namespace JsonQuery

/-- A token behind which no operand goes on. -/
def Token.endsOperand : Token → Bool
  | closing | both | either => true
  | _ => false

/-- Nothing that belongs to an operand comes next. -/
def EndsOperand (rest : List Token) : Prop := ∀ token ∈ rest.head?, token.endsOperand = true

/-- A group or the whole text ends here. -/
def EndsDisjunction (rest : List Token) : Prop := ∀ token ∈ rest.head?, token = .closing

theorem EndsOperand.endsChain {rest : List Token} (ended : EndsOperand rest) : EndsChain rest := by
  intro token first
  have ends := ended token first
  cases token <;> first | rfl | cases ends

theorem EndsDisjunction.endsOperand {rest : List Token} (ended : EndsDisjunction rest) :
    EndsOperand rest := by
  intro token first
  rw [ended token first]
  rfl

theorem OperandsDerive.endsOperand {operands : List (Connective × Expression)}
    {tokens rest : List Token} {depth : Nat} (derives : OperandsDerive operands tokens depth)
    (ended : EndsDisjunction rest) : EndsOperand (tokens ++ rest) := by
  cases derives with
  | nil => exact ended.endsOperand
  | cons connective =>
    intro token first
    obtain rfl := Option.some.inj first
    cases connective <;> rfl

namespace Parse

/-- The outcome is the value if a condition holds, and too deep nesting if it does not. -/
def Settles {α : Type} (within : Prop) (value : α) (outcome : Except ParseError α) : Prop :=
  (within → outcome = .ok value) ∧ (¬ within → ∃ position, outcome = .error ⟨.nestingTooDeep, position⟩)

namespace Settles

variable {α β : Type} {within : Prop} {value : α} {outcome : Except ParseError α}

theorem of_true (holds : within) (done : outcome = .ok value) : Settles within value outcome :=
  ⟨fun _ => done, fun fails => absurd holds fails⟩

theorem of_false {position : Nat} (fails : ¬ within)
    (refused : outcome = .error ⟨.nestingTooDeep, position⟩) : Settles within value outcome :=
  ⟨fun holds => absurd holds fails, fun _ => ⟨position, refused⟩⟩

theorem congr {other : Prop} (settles : Settles within value outcome) (same : within ↔ other) :
    Settles other value outcome :=
  propext same ▸ settles

theorem bind {later : Prop} {result : β} {more : α → Except ParseError β}
    (step : Settles within value outcome) (next : within → Settles later result (more value)) :
    Settles (within ∧ later) result (outcome >>= more) := by
  by_cases holds : within
  · rw [step.1 holds]
    exact (next holds).congr (and_iff_right holds).symm
  · obtain ⟨position, refused⟩ := step.2 holds
    rw [refused]
    exact of_false (fun both => holds both.1) rfl

end Settles

theorem bounded_settles (position : Nat) (expression : Expression) :
    Settles (expression.height ≤ maxNesting) (measure expression) (bounded position expression) := by
  by_cases fits : expression.height ≤ maxNesting
  · exact .of_true fits (bounded_of_le position fits)
  · exact .of_false fits (bounded_of_lt position (Nat.lt_of_not_le fits))

/-- A reader reads every operand, up to its budget and to the bound on heights. -/
def CompleteReader (budget : Nat) (operand : Reader) : Prop :=
  ∀ position tokens rest expression depth, Derives .operand tokens expression depth →
    EndsOperand rest →
    Settles (depth ≤ budget ∧ expression.height ≤ maxNesting)
      (measure expression, ⟨position + tokens.length, rest⟩)
      (operand ⟨position, tokens ++ rest⟩)

theorem readOperands_of_ends (operand : Reader) (rounds position : Nat) {rest : List Token}
    (ended : EndsDisjunction rest) :
    readOperands operand rounds ⟨position, rest⟩ = .ok ([], ⟨position, rest⟩) := by
  have none : connective? rest = none := by
    cases rest with
    | nil => rfl
    | cons token others =>
      rw [ended token rfl]
      rfl
  unfold readOperands
  rw [none]

theorem readOperands_cons (operand : Reader) (rounds position : Nat) (connective : Connective)
    (rest : List Token) :
    readOperands operand (rounds + 1) ⟨position, connective.token :: rest⟩ =
      (do
        let (right, next) ← operand ⟨position + 1, rest⟩
        let (others, next) ← readOperands operand rounds next
        return ((connective, right) :: others, next)) := by
  cases connective <;> rfl

theorem readOperands_settles {budget : Nat} {operand : Reader}
    (complete : CompleteReader budget operand) {others : List (Connective × Expression)}
    {tokens rest : List Token} {depth : Nat} (derives : OperandsDerive others tokens depth)
    (ended : EndsDisjunction rest) {rounds : Nat} (enough : tokens.length ≤ rounds)
    (position : Nat) :
    Settles (depth ≤ budget ∧ ∀ operand ∈ others, operand.2.height ≤ maxNesting)
      (others.map measureRight, ⟨position + tokens.length, rest⟩)
      (readOperands operand rounds ⟨position, tokens ++ rest⟩) := by
  induction derives generalizing rounds position with
  | nil =>
    exact .of_true ⟨Nat.zero_le _, List.forall_mem_nil _⟩
      (readOperands_of_ends operand rounds position ended)
  | @cons tokens more right others depth othersDepth connective first others_derive ih =>
    obtain ⟨rounds, rfl⟩ := Nat.exists_eq_add_one.mpr (Nat.lt_of_lt_of_le (Nat.zero_lt_succ _) enough)
    rw [List.cons_append, List.append_assoc, readOperands_cons]
    have fewer : more.length ≤ rounds := by
      rw [List.length_cons, List.length_append] at enough
      omega
    have readFirst := complete (position + 1) tokens (more ++ rest) right depth first
      (others_derive.endsOperand ended)
    have readOthers := ih fewer (position + 1 + tokens.length)
    have moved : position + (connective.token :: (tokens ++ more)).length =
        position + 1 + tokens.length + more.length := by
      rw [List.length_cons, List.length_append]
      omega
    rw [moved]
    refine Settles.congr (readFirst.bind fun _ => readOthers.bind fun _ =>
      Settles.of_true trivial rfl) ?_
    rw [List.forall_mem_cons, Nat.max_le]
    tauto

theorem readJoined_settles {budget : Nat} {operand : Reader}
    (complete : CompleteReader budget operand) {tokens rest : List Token} {expression : Expression}
    {depth : Nat} (derives : Derives .disjunction tokens expression depth)
    (ended : EndsDisjunction rest) (position : Nat) :
    Settles (depth ≤ budget ∧ expression.height ≤ maxNesting)
      (measure expression, ⟨position + tokens.length, rest⟩)
      (readJoined operand ⟨position, tokens ++ rest⟩) := by
  obtain ⟨first, others, flat, rfl⟩ := derives.flat_of_disjunction
  cases flat with
  | @flat tokens more _ _ firstDepth othersDepth firstDerives othersDerive =>
    rw [List.append_assoc]
    have readFirst := complete position tokens (more ++ rest) first firstDepth firstDerives
      (othersDerive.endsOperand ended)
    have enough : more.length ≤ (more ++ rest).length := by
      rw [List.length_append]
      exact Nat.le_add_right _ _
    have readOthers := readOperands_settles complete othersDerive ended enough
      (position + tokens.length)
    have moved : position + (tokens ++ more).length = position + tokens.length + more.length := by
      rw [List.length_append, Nat.add_assoc]
    have joined (fits : first.height ≤ maxNesting)
        (othersFit : ∀ operand ∈ others, operand.2.height ≤ maxNesting) :=
      combine_measure (position + tokens.length + more.length) fits othersFit ▸
        bounded_settles (position + tokens.length + more.length) (first.joinAll others)
    rw [moved]
    refine Settles.congr (readFirst.bind fun firstWithin => readOthers.bind fun othersWithin =>
      (joined firstWithin.2 othersWithin.2).bind fun _ => Settles.of_true trivial rfl) ?_
    have firstBelow := first.height_le_joinAll others
    have othersBelow := first.height_le_joinAll_of_mem others
    constructor
    · rintro ⟨⟨firstWithin, _⟩, ⟨othersWithin, _⟩, fits, _⟩
      exact ⟨Nat.max_le.mpr ⟨firstWithin, othersWithin⟩, fits⟩
    · rintro ⟨within, fits⟩
      obtain ⟨firstWithin, othersWithin⟩ := Nat.max_le.mp within
      exact ⟨⟨firstWithin, Nat.le_trans firstBelow fits⟩,
        ⟨othersWithin, fun operand listed => Nat.le_trans (othersBelow operand listed) fits⟩,
        fits, trivial⟩

theorem readChain_complete {tokens rest : List Token} {segments : Chain}
    (run : ChainRun tokens segments) (ended : EndsChain rest) (position : Nat) :
    readChain ⟨position, tokens ++ rest⟩ =
      .ok (measure (.chain segments), ⟨position + tokens.length, rest⟩) := by
  unfold readChain
  rw [readSegments_complete run ended]
  rfl

/-- The reader takes for a chain what does not start with a sign or a parenthesis. -/
theorem readOperand_of_start (budget : Nat) {cursor : Cursor}
    (start : ∀ token ∈ cursor.rest.head?, token.inChain = true ∨ token.endsOperand = true) :
    readOperand budget cursor = readChain cursor := by
  have noSign (rest : List Token) : cursor.rest ≠ .negation :: rest := by
    intro sign
    rw [sign] at start
    rcases start _ rfl with bad | bad <;> cases bad
  have noGroup (rest : List Token) : cursor.rest ≠ .opening :: rest := by
    intro group
    rw [group] at start
    rcases start _ rfl with bad | bad <;> cases bad
  fun_cases readOperand budget cursor with
  | case1 _ rest sign | case3 rest sign => exact absurd sign (noSign rest)
  | case2 _ rest group | case4 rest group => exact absurd group (noGroup rest)
  | case5 => rfl

/-- A chain is read as such even where nothing of it is written. -/
theorem readOperand_chain {tokens rest : List Token} {segments : Chain}
    (run : ChainRun tokens segments) (ended : EndsOperand rest) (budget position : Nat) :
    readOperand budget ⟨position, tokens ++ rest⟩ =
      .ok (measure (.chain segments), ⟨position + tokens.length, rest⟩) := by
  rw [readOperand_of_start, readChain_complete run ended.endsChain]
  intro token first
  cases tokens with
  | nil => exact .inr (ended token first)
  | cons head others =>
    obtain rfl := Option.some.inj first
    exact .inl (run.inChain _ List.mem_cons_self)

theorem readOperand_complete (budget : Nat) : CompleteReader budget (readOperand budget) := by
  induction budget with
  | zero =>
    intro position tokens rest expression depth derives ended
    cases derives with
    | chain run =>
      exact .of_true ⟨Nat.le_refl _, Nat.le_add_left 1 255⟩ (readOperand_chain run ended 0 position)
    | negation | group => exact .of_false (fun within => Nat.not_succ_le_zero _ within.1) rfl
  | succ budget ih =>
    intro position tokens rest expression depth derives ended
    cases derives with
    | chain run =>
      exact .of_true ⟨Nat.zero_le _, Nat.le_add_left 1 255⟩ (readOperand_chain run ended _ position)
    | @negation tokens operand depth inner =>
      have readInner := ih (position + 1) tokens rest operand depth inner ended
      have checked := bounded_settles (position + 1 + tokens.length) (.negation operand)
      have moved : position + (Token.negation :: tokens).length = position + 1 + tokens.length := by
        rw [List.length_cons]
        omega
      rw [moved]
      refine Settles.congr (readInner.bind fun _ => checked.bind fun _ =>
        Settles.of_true trivial rfl) ?_
      have below : operand.height ≤ (Expression.negation operand).height := Nat.le_succ _
      constructor
      · rintro ⟨⟨within, _⟩, fits, _⟩
        exact ⟨Nat.succ_le_succ within, fits⟩
      · rintro ⟨within, fits⟩
        exact ⟨⟨Nat.le_of_succ_le_succ within, Nat.le_trans below fits⟩, fits, trivial⟩
    | @group tokens _ depth inner =>
      have closes : EndsDisjunction (.closing :: rest) := fun token first =>
        (Option.some.inj first).symm
      have readInner := readJoined_settles ih inner closes (position + 1)
      have moved : position + (Token.opening :: (tokens ++ [.closing])).length =
          position + 1 + tokens.length + 1 := by
        rw [List.length_cons, List.length_append, List.length_singleton]
        omega
      rw [moved, List.cons_append, List.append_assoc]
      refine Settles.congr (readInner.bind fun _ => Settles.of_true trivial rfl) ?_
      rw [Nat.succ_le_succ_iff]
      tauto

end Parse

/-- A derived sequence of tokens is accepted, or nests too deeply. -/
theorem Expression.ofTokens_settles {tokens : List Token} {expression : Expression} {depth : Nat}
    (derives : Derives .disjunction tokens expression depth) :
    Parse.Settles (depth ≤ maxNesting ∧ expression.height ≤ maxNesting) expression
      (ofTokens tokens) := by
  have ended : EndsDisjunction [] := by
    intro token first
    cases first
  have readWhole := Parse.readJoined_settles (Parse.readOperand_complete maxNesting) derives ended 0
  rw [List.append_nil] at readWhole
  refine Parse.Settles.congr (readWhole.bind fun _ => Parse.Settles.of_true trivial rfl) ?_
  exact and_iff_left trivial

/-- The reader accepts exactly the grammar: where nesting is not too deep, it answers an
expression if and only if the whole sequence of tokens derives it. -/
theorem Expression.ofTokens_eq_ok_iff (tokens : List Token) (expression : Expression) :
    ofTokens tokens = .ok expression ↔
      (∀ position, ofTokens tokens ≠ .error ⟨.nestingTooDeep, position⟩) ∧
        ∃ depth, Derives .disjunction tokens expression depth := by
  constructor
  · intro read
    obtain ⟨depth, derives, _⟩ := ofTokens_sound read
    refine ⟨?_, depth, derives⟩
    intro position refused
    rw [read] at refused
    cases refused
  · rintro ⟨shallow, depth, derives⟩
    have settles := ofTokens_settles derives
    by_contra unread
    obtain ⟨position, refused⟩ := settles.2 fun within => unread (settles.1 within)
    exact shallow position refused

/-- The group is negated before it is joined, and of two filters the last one counts. -/
example : Expression.ofTokens [.negation, .opening, .property "a", .filter "x", .dot, .filter "y",
      .either, .closing, .both, .property "b", .slice ⟨some 1, none, none⟩] =
    .ok (.joined .both
      (.negation (.joined .either (.chain [.property "a" (some (.existence ⟨"y"⟩)) none])
        (.chain [])))
      (.chain [.property "b" none (some ⟨some 1, none, none⟩)])) := by
  cbv

end JsonQuery
