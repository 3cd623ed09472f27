import JsonQuery.Query.Parse

/-! Joining a flat list of operands: conjunctions first and from the left, and then the
disjunctions from the left. The reader joins exactly this tree, with its true height, or
finds it too high. -/

namespace JsonQuery

namespace Expression

/-- The first of the conjunctions between disjunctions, and the others. -/
def conjoin (first : Expression) : List (Connective × Expression) → Expression × List Expression
  | [] => (first, [])
  | (.both, right) :: rest => conjoin (.joined .both first right) rest
  | (.either, right) :: rest => (first, (conjoin right rest).1 :: (conjoin right rest).2)

/-- Join expressions from the left by disjunction. -/
def disjoin (first : Expression) (others : List Expression) : Expression :=
  others.foldl (.joined .either) first

/-- Join operands, conjunctions first. -/
def joinAll (first : Expression) (rest : List (Connective × Expression)) : Expression :=
  disjoin (conjoin first rest).1 (conjoin first rest).2

theorem conjoin_both (first : Expression) (rest : List (Connective × Expression))
    (both : ∀ operand ∈ rest, operand.1 = .both) : (conjoin first rest).2 = [] := by
  induction rest generalizing first with
  | nil => rfl
  | cons operand rest ih =>
    obtain ⟨connective, right⟩ := operand
    obtain ⟨rfl, remaining⟩ := List.forall_mem_cons.mp both
    rw [conjoin]
    exact ih _ remaining

theorem joinAll_both (first : Expression) (rest : List (Connective × Expression))
    (both : ∀ operand ∈ rest, operand.1 = .both) : joinAll first rest = (conjoin first rest).1 := by
  rw [joinAll, conjoin_both first rest both]
  rfl

theorem conjoin_concat_both (first right : Expression) (rest : List (Connective × Expression))
    (both : ∀ operand ∈ rest, operand.1 = .both) :
    (conjoin first (rest ++ [(.both, right)])).1 =
      .joined .both (conjoin first rest).1 right := by
  induction rest generalizing first with
  | nil => rfl
  | cons operand rest ih =>
    obtain ⟨connective, middle⟩ := operand
    obtain ⟨rfl, remaining⟩ := List.forall_mem_cons.mp both
    rw [List.cons_append, conjoin, conjoin]
    exact ih _ remaining

theorem conjoin_append_either (first right : Expression)
    (rest more : List (Connective × Expression)) :
    conjoin first (rest ++ (.either, right) :: more) =
      ((conjoin first rest).1,
        (conjoin first rest).2 ++ (conjoin right more).1 :: (conjoin right more).2) := by
  induction rest generalizing first with
  | nil => rfl
  | cons operand rest ih =>
    obtain ⟨connective, middle⟩ := operand
    cases connective with
    | both =>
      rw [List.cons_append, conjoin, conjoin]
      exact ih _
    | either =>
      rw [List.cons_append, conjoin, conjoin, ih]
      rfl

theorem joinAll_append_either (first right : Expression)
    (rest more : List (Connective × Expression)) (both : ∀ operand ∈ more, operand.1 = .both) :
    joinAll first (rest ++ (.either, right) :: more) =
      .joined .either (joinAll first rest) (conjoin right more).1 := by
  simp only [joinAll, disjoin, conjoin_append_either, conjoin_both right more both,
    List.foldl_append, List.foldl_cons, List.foldl_nil]

theorem height_le_conjoin (first : Expression) (rest : List (Connective × Expression)) :
    first.height ≤ (conjoin first rest).1.height := by
  induction rest generalizing first with
  | nil => exact Nat.le_refl _
  | cons operand rest ih =>
    obtain ⟨connective, right⟩ := operand
    cases connective with
    | both =>
      have below : first.height ≤ (joined .both first right).height :=
        Nat.le_succ_of_le (Nat.le_max_left _ _)
      exact Nat.le_trans below (ih _)
    | either => exact Nat.le_refl _

theorem height_le_disjoin (first : Expression) (others : List Expression) :
    ∀ member ∈ first :: others, member.height ≤ (disjoin first others).height := by
  induction others generalizing first with
  | nil =>
    intro member only
    exact List.mem_singleton.mp only ▸ Nat.le_refl _
  | cons next others ih =>
    have whole := ih (.joined .either first next)
    have start := whole _ List.mem_cons_self
    have firstBelow : first.height ≤ (joined .either first next).height :=
      Nat.le_succ_of_le (Nat.le_max_left _ _)
    have nextBelow : next.height ≤ (joined .either first next).height :=
      Nat.le_succ_of_le (Nat.le_max_right _ _)
    intro member listed
    rcases List.mem_cons.mp listed with rfl | listed
    · exact Nat.le_trans firstBelow start
    · rcases List.mem_cons.mp listed with rfl | listed
      · exact Nat.le_trans nextBelow start
      · exact whole member (List.mem_cons_of_mem _ listed)

private theorem height_le_some_conjunction (first : Expression)
    (rest : List (Connective × Expression)) : ∀ operand ∈ rest,
      ∃ member ∈ (conjoin first rest).1 :: (conjoin first rest).2,
        operand.2.height ≤ member.height := by
  induction rest generalizing first with
  | nil => exact List.forall_mem_nil _
  | cons next rest ih =>
    obtain ⟨connective, right⟩ := next
    cases connective with
    | both =>
      refine List.forall_mem_cons.mpr ⟨?_, ih _⟩
      have below : right.height ≤ (joined .both first right).height :=
        Nat.le_succ_of_le (Nat.le_max_right _ _)
      exact ⟨_, List.mem_cons_self, Nat.le_trans below (height_le_conjoin _ rest)⟩
    | either =>
      refine List.forall_mem_cons.mpr ⟨?_, ?_⟩
      · exact ⟨_, List.mem_cons_of_mem _ List.mem_cons_self, height_le_conjoin right rest⟩
      · intro operand listed
        obtain ⟨member, found, below⟩ := ih right operand listed
        exact ⟨member, List.mem_cons_of_mem _ found, below⟩

theorem height_le_joinAll (first : Expression) (rest : List (Connective × Expression)) :
    first.height ≤ (joinAll first rest).height :=
  Nat.le_trans (height_le_conjoin first rest) (height_le_disjoin _ _ _ List.mem_cons_self)

theorem height_le_joinAll_of_mem (first : Expression) (rest : List (Connective × Expression)) :
    ∀ operand ∈ rest, operand.2.height ≤ (joinAll first rest).height := by
  intro operand listed
  obtain ⟨member, found, below⟩ := height_le_some_conjunction first rest operand listed
  exact Nat.le_trans below (height_le_disjoin _ _ member found)

end Expression

namespace Parse

def measure (expression : Expression) : Measured := ⟨expression, expression.height⟩

def measureRight (operand : Connective × Expression) : Connective × Measured :=
  (operand.1, measure operand.2)

/-- The measured expression, unless it is too high. -/
def bounded (position : Nat) (expression : Expression) : Except ParseError Measured :=
  measured position expression expression.height

theorem bounded_of_le {expression : Expression} (position : Nat)
    (fits : expression.height ≤ maxNesting) :
    bounded position expression = .ok (measure expression) :=
  if_neg (Nat.not_lt.mpr fits)

theorem bounded_of_lt {expression : Expression} (position : Nat)
    (high : maxNesting < expression.height) :
    bounded position expression = .error ⟨.nestingTooDeep, position⟩ :=
  if_pos high

/-- Join the operands between disjunctions from left to right: the first of the
conjunctions, and the others. -/
def conjunctions (position : Nat) (first : Measured) :
    List (Connective × Measured) → Except ParseError (Measured × List Measured)
  | [] => .ok (first, [])
  | (.both, right) :: rest => do
    conjunctions position (← join position .both first right) rest
  | (.either, right) :: rest => do
    let (next, others) ← conjunctions position right rest
    return (first, next :: others)

namespace Folding

/-- Folding in the middle: some operands need no more of it, and behind them stands the first of
those between which there are connectives to come. -/
def during (done : List Measured) (current : Measured) (rest : List (Connective × Measured)) :
    Folding :=
  ⟨done ++ current :: rest.map (·.2), List.replicate done.length .either ++ rest.map (·.1),
    done.length⟩

variable (position : Nat) (done : List Measured) (current right : Measured)
  (rest : List (Connective × Measured))

theorem during_inside (connective : Connective) :
    (during done current ((connective, right) :: rest)).place <
      (during done current ((connective, right) :: rest)).connectives.length := by
  simp [during]

theorem round_during_both :
    (during done current ((.both, right) :: rest)).round position =
      (do
        let joined ← (join position .both current right).mapError .refused
        return during done joined rest) :=
  round_both position done current right (rest.map Prod.snd) List.length_replicate
    (rest.map Prod.fst)

theorem round_during_either :
    (during done current ((.either, right) :: rest)).round position =
      .ok (during (done ++ [current]) right rest) := by
  have passed := round_either position done (List.length_replicate (a := .either))
    (rest.map (·.1)) (done ++ current :: right :: rest.map (·.2))
  simpa [during, List.replicate_succ'] using passed

/-- Folding in place leaves the operands of the disjunctions. The induction is on what is to come:
the operands before the place are not touched again. -/
theorem run_during {rounds : Nat} (enough : rest.length ≤ rounds) :
    (during done current rest).run position rounds =
      ((conjunctions position current rest).mapError .refused).map fun parts =>
        done ++ parts.1 :: parts.2 := by
  induction rest generalizing done current rounds with
  | nil =>
    exact run_of_ended (by simp [during]) rounds
  | cons operand rest ih =>
    obtain ⟨connective, right⟩ := operand
    obtain ⟨rounds, rfl⟩ := Nat.exists_eq_add_of_le' enough
    have fewer : rest.length ≤ rounds + rest.length := Nat.le_add_left _ _
    rw [List.length_cons, ← Nat.add_assoc,
      run_of_inside (during_inside done current right rest connective)]
    cases connective with
    | both =>
      rw [round_during_both, conjunctions]
      cases joins : join position .both current right with
      | error error => rfl
      | ok joined => exact ih done joined fewer
    | either =>
      rw [round_during_either, conjunctions]
      have later := ih (done ++ [current]) right fewer
      cases joins : conjunctions position right rest with
      | error error =>
        rw [joins] at later
        exact later
      | ok parts =>
        have flat : done ++ [current] ++ parts.1 :: parts.2 =
            done ++ current :: parts.1 :: parts.2 := by simp
        rw [joins] at later
        exact later.trans (congrArg Except.ok flat)

end Folding

theorem mapError_refused_injective {α : Type} :
    Function.Injective (Except.mapError Halt.refused : Except ParseError α → Except Halt α) := by
  intro one other same
  cases one with
  | ok value =>
    cases other with
    | ok value => exact congrArg Except.ok (Except.ok.inj same)
    | error error => cases same
  | error error =>
    cases other with
    | ok value => cases same
    | error error => exact congrArg Except.error (Halt.refused.inj (Except.error.inj same))

/-- Joining folds the conjunctions between disjunctions, and then joins what is left. -/
theorem combine_eq (position : Nat) (first : Measured) (rest : List (Connective × Measured)) :
    combine position first rest = (do
      let (first, others) ← conjunctions position first rest
      others.foldlM (join position .either) first) := by
  have left := Folding.run_during position [] first rest (Nat.le_refl _)
  apply mapError_refused_injective
  rw [combine, mapError_conclude, fold, List.length_map]
  change (Folding.run position _ (.during [] first rest) >>= _) = _
  rw [left]
  cases conjunctions position first rest with
  | error error => rfl
  | ok parts => rfl

theorem join_measure (position : Nat) (connective : Connective) (left right : Expression) :
    join position connective (measure left) (measure right) =
      bounded position (.joined connective left right) :=
  rfl

/-- The conjunctions are those of the flat list as long as all of them fit. -/
theorem conjunctions_measure (position : Nat) {first : Expression}
    {rest : List (Connective × Expression)} (fits : first.height ≤ maxNesting)
    (restFits : ∀ operand ∈ rest, operand.2.height ≤ maxNesting) :
    conjunctions position (measure first) (rest.map measureRight) =
      if ∀ member ∈ (first.conjoin rest).1 :: (first.conjoin rest).2, member.height ≤ maxNesting
      then .ok (measure (first.conjoin rest).1, (first.conjoin rest).2.map measure)
      else .error ⟨.nestingTooDeep, position⟩ := by
  induction rest generalizing first with
  | nil =>
    rw [if_pos]
    · rfl
    · intro member only
      exact List.mem_singleton.mp only ▸ fits
  | cons operand rest ih =>
    obtain ⟨connective, right⟩ := operand
    obtain ⟨rightFits, remaining⟩ := List.forall_mem_cons.mp restFits
    cases connective with
    | both =>
      rw [List.map_cons, measureRight, conjunctions, join_measure, Expression.conjoin]
      by_cases high : maxNesting < (Expression.joined .both first right).height
      · rw [bounded_of_lt position high, if_neg]
        · rfl
        · intro all
          have top := all _ List.mem_cons_self
          have below := Expression.height_le_conjoin (.joined .both first right) rest
          omega
      · rw [bounded_of_le position (Nat.le_of_not_lt high)]
        exact ih (Nat.le_of_not_lt high) remaining
    | either =>
      rw [List.map_cons, measureRight, conjunctions, ih rightFits remaining, Expression.conjoin]
      by_cases all : ∀ member ∈ (right.conjoin rest).1 :: (right.conjoin rest).2,
          member.height ≤ maxNesting
      · rw [if_pos all, if_pos]
        · rfl
        · exact List.forall_mem_cons.mpr ⟨fits, all⟩
      · rw [if_neg all, if_neg fun both => all (List.forall_mem_cons.mp both).2]
        rfl

theorem foldlM_join_measure (position : Nat) {first : Expression} {others : List Expression}
    (fits : first.height ≤ maxNesting) :
    (others.map measure).foldlM (join position .either) (measure first) =
      bounded position (first.disjoin others) := by
  induction others generalizing first with
  | nil => exact (bounded_of_le position fits).symm
  | cons next others ih =>
    rw [List.map_cons, List.foldlM_cons, join_measure]
    by_cases high : maxNesting < (Expression.joined .either first next).height
    · have below := Expression.height_le_disjoin (.joined .either first next) others _
        List.mem_cons_self
      have whole : maxNesting < (first.disjoin (next :: others)).height :=
        Nat.lt_of_lt_of_le high below
      rw [bounded_of_lt position high, bounded_of_lt position whole]
      rfl
    · rw [bounded_of_le position (Nat.le_of_not_lt high)]
      exact ih (Nat.le_of_not_lt high)

/-- Operands of true heights are joined to the tree of the flat list with its true
height, and refused exactly if that is too high. -/
theorem combine_measure (position : Nat) {first : Expression}
    {rest : List (Connective × Expression)} (fits : first.height ≤ maxNesting)
    (restFits : ∀ operand ∈ rest, operand.2.height ≤ maxNesting) :
    combine position (measure first) (rest.map measureRight) =
      bounded position (first.joinAll rest) := by
  rw [combine_eq, conjunctions_measure position fits restFits]
  by_cases all : ∀ member ∈ (first.conjoin rest).1 :: (first.conjoin rest).2,
      member.height ≤ maxNesting
  · rw [if_pos all]
    exact foldlM_join_measure position (all _ List.mem_cons_self)
  · have high : maxNesting < (first.joinAll rest).height := by
      refine Nat.lt_of_not_le fun low => all ?_
      intro member listed
      exact Nat.le_trans (Expression.height_le_disjoin _ _ member listed) low
    rw [if_neg all, bounded_of_lt position high]
    rfl

end Parse

end JsonQuery
