import JsonQuery.Proofs.Query.Folding
import JsonQuery.Proofs.Query.Grammar

/-! A disjunction is a flat list of operands with connectives between them, and its tree
is the one that folding makes of the list. -/

namespace JsonQuery

/-- Tokens of connectives, each with the operand behind it, and the depth of the deepest. -/
inductive OperandsDerive : List (Connective × Expression) → List Token → Nat → Prop where
  | nil : OperandsDerive [] [] 0
  | cons {tokens more : List Token} {right : Expression}
      {rest : List (Connective × Expression)} {depth restDepth : Nat} (connective : Connective)
      (operand : Derives .operand tokens right depth) (others : OperandsDerive rest more restDepth) :
      OperandsDerive ((connective, right) :: rest) (connective.token :: (tokens ++ more))
        (max depth restDepth)

/-- A first operand and the others. -/
inductive FlatDerives :
    Expression → List (Connective × Expression) → List Token → Nat → Prop where
  | flat {tokens more : List Token} {first : Expression}
      {rest : List (Connective × Expression)} {depth restDepth : Nat}
      (operand : Derives .operand tokens first depth) (others : OperandsDerive rest more restDepth) :
      FlatDerives first rest (tokens ++ more) (max depth restDepth)

namespace OperandsDerive

variable {rest more : List (Connective × Expression)} {tokens after : List Token}
  {depth afterDepth : Nat}

theorem append (first : OperandsDerive rest tokens depth)
    (second : OperandsDerive more after afterDepth) :
    OperandsDerive (rest ++ more) (tokens ++ after) (max depth afterDepth) := by
  induction first with
  | nil => exact (Nat.zero_max afterDepth).symm ▸ second
  | cons connective operand others ih =>
    have joined := OperandsDerive.cons connective operand ih
    rw [← List.append_assoc, ← Nat.max_assoc] at joined
    exact joined

/-- Folding the operands behind a conjunction derives the whole, where `close` puts a
conjunction behind what is already joined. -/
private theorem disjoin {close : Expression → Expression} {before : List Token} {doneDepth : Nat}
    (done : ∀ tokens expression depth, Derives .conjunction tokens expression depth →
      Derives .disjunction (before ++ tokens) (close expression) (max doneDepth depth))
    {current : List Token} {first : Expression} {firstDepth : Nat}
    (conjunction : Derives .conjunction current first firstDepth)
    (others : OperandsDerive rest tokens depth) :
    Derives .disjunction (before ++ (current ++ tokens))
      ((close (first.conjoin rest).1).disjoin (first.conjoin rest).2)
      (max doneDepth (max firstDepth depth)) := by
  induction others generalizing close before doneDepth current first firstDepth with
  | nil =>
    have closed := done _ _ _ conjunction
    rw [List.append_nil, Nat.max_zero]
    exact closed
  | cons connective operand others ih =>
    cases connective with
    | both =>
      have joined := ih done (.both conjunction operand)
      rw [List.append_assoc, List.cons_append, Nat.max_assoc] at joined
      exact joined
    | either =>
      have closed := done _ _ _ conjunction
      have later : ∀ tokens expression depth, Derives .conjunction tokens expression depth →
          Derives .disjunction (before ++ (current ++ [.either]) ++ tokens)
            (.joined .either (close first) expression)
            (max (max doneDepth firstDepth) depth) := by
        intro tokens expression depth next
        have joined := Derives.either closed next
        rw [List.append_assoc] at joined
        rw [List.append_assoc, List.append_assoc]
        exact joined
      have joined := ih later (.single operand)
      rw [List.append_assoc, List.append_assoc, Nat.max_assoc] at joined
      exact joined

end OperandsDerive

namespace FlatDerives

variable {first : Expression} {rest : List (Connective × Expression)} {tokens : List Token}
  {depth : Nat}

theorem derives (flat : FlatDerives first rest tokens depth) :
    Derives .disjunction tokens (first.joinAll rest) depth := by
  obtain ⟨operand, others⟩ := flat
  have start : ∀ tokens expression depth, Derives .conjunction tokens expression depth →
      Derives .disjunction ([] ++ tokens) (id expression) (max 0 depth) := by
    intro tokens expression depth conjunction
    rw [Nat.zero_max]
    exact .conjunction conjunction
  have whole := others.disjoin start (.single operand)
  rw [Nat.zero_max] at whole
  exact whole

theorem append {more : List (Connective × Expression)} {after : List Token} {afterDepth : Nat}
    (flat : FlatDerives first rest tokens depth) (others : OperandsDerive more after afterDepth) :
    FlatDerives first (rest ++ more) (tokens ++ after) (max depth afterDepth) := by
  obtain ⟨operand, earlier⟩ := flat
  rw [List.append_assoc, Nat.max_assoc]
  exact .flat operand (earlier.append others)

theorem behind (connective : Connective) (flat : FlatDerives first rest tokens depth) :
    OperandsDerive ((connective, first) :: rest) (connective.token :: tokens) depth := by
  obtain ⟨operand, others⟩ := flat
  exact .cons connective operand others

end FlatDerives

namespace Derives

variable {tokens : List Token} {expression : Expression} {depth : Nat}

theorem flat (operand : Derives .operand tokens expression depth) :
    FlatDerives expression [] tokens depth := by
  have alone := FlatDerives.flat operand .nil
  rw [List.append_nil, Nat.max_zero] at alone
  exact alone

theorem flat_of_conjunction (whole : Derives .conjunction tokens expression depth) :
    ∃ first rest, FlatDerives first rest tokens depth ∧ (∀ operand ∈ rest, operand.1 = .both) ∧
      (first.conjoin rest).1 = expression := by
  generalize kind : Phrase.conjunction = phrase at whole
  induction whole with
  | single only =>
    exact ⟨_, [], only.flat, List.forall_mem_nil _, rfl⟩
  | @both before after left right leftDepth rightDepth earlier second ih =>
    obtain ⟨first, rest, flat, both, rfl⟩ := ih rfl
    refine ⟨first, rest ++ [(Connective.both, right)], flat.append (second.flat.behind .both), ?_, ?_⟩
    · intro operand member
      rcases List.mem_append.mp member with listed | last
      · exact both operand listed
      · exact List.mem_singleton.mp last ▸ rfl
    · exact Expression.conjoin_concat_both first right rest both
  | chain | negation | group | conjunction | either => cases kind

/-- A disjunction is a flat list of operands, joined conjunctions first. -/
theorem flat_of_disjunction (whole : Derives .disjunction tokens expression depth) :
    ∃ first rest, FlatDerives first rest tokens depth ∧ first.joinAll rest = expression := by
  generalize kind : Phrase.disjunction = phrase at whole
  induction whole with
  | conjunction only =>
    obtain ⟨first, rest, flat, both, rfl⟩ := only.flat_of_conjunction
    exact ⟨first, rest, flat, Expression.joinAll_both first rest both⟩
  | either earlier last ih =>
    obtain ⟨first, rest, flat, rfl⟩ := ih rfl
    obtain ⟨right, more, others, both, rfl⟩ := last.flat_of_conjunction
    exact ⟨first, rest ++ (.either, right) :: more, flat.append (others.behind .either),
      Expression.joinAll_append_either first right rest more both⟩
  | chain | negation | group | single | both => cases kind

end Derives

end JsonQuery
