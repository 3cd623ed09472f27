import JsonQuery.Proofs.Query.Lookahead

/-! How operands are folded in place. The rounds keep inside both lists and come to an end, each of
them dealing with one connective, and what they make is the disjunction of the conjunctions. It is
refused exactly if it is too high, although its parts are checked one by one. -/

namespace JsonQuery

namespace Expression

/-- Operands with conjunctions between them: the first, and those behind it. -/
abbrev Conjuncts := Expression × List Expression

def Conjuncts.conjunction (conjuncts : Conjuncts) : Expression :=
  conjuncts.2.foldl (.joined .both) conjuncts.1

def disjunction (first : Conjuncts) (others : List Conjuncts) : Expression :=
  (others.map Conjuncts.conjunction).foldl (.joined .either) first.conjunction

/-- The flat list of the operands of a disjunction, with connectives, behind the first operand. -/
def flatten (first : Conjuncts) (others : List Conjuncts) : List (Connective × Expression) :=
  first.2.map (.both, ·) ++
    others.flatMap fun conjuncts => (.either, conjuncts.1) :: conjuncts.2.map (.both, ·)

theorem exists_flatten (first : Expression) (rest : List (Connective × Expression)) :
    ∃ (conjuncts : List Expression) (others : List Conjuncts),
      rest = flatten (first, conjuncts) others := by
  induction rest with
  | nil => exact ⟨[], [], rfl⟩
  | cons operand rest ih =>
    obtain ⟨connective, right⟩ := operand
    obtain ⟨conjuncts, others, rfl⟩ := ih
    cases connective with
    | both => exact ⟨right :: conjuncts, others, rfl⟩
    | either => exact ⟨[], (right, conjuncts) :: others, rfl⟩

theorem conjoin_flatten (first : Expression) (conjuncts : List Expression)
    (others : List Conjuncts) : conjoin first (flatten (first, conjuncts) others) =
      (Conjuncts.conjunction (first, conjuncts), others.map Conjuncts.conjunction) := by
  induction others generalizing first conjuncts with
  | nil =>
    induction conjuncts generalizing first with
    | nil => rfl
    | cons next conjuncts ih => exact ih (.joined .both first next)
  | cons other others ih =>
    induction conjuncts generalizing first with
    | nil =>
      change (first, (conjoin other.1 (flatten other others)).1 ::
        (conjoin other.1 (flatten other others)).2) = _
      rw [ih other.1 other.2]
      rfl
    | cons next conjuncts inner => exact inner (.joined .both first next)

theorem joinAll_flatten (first : Expression) (conjuncts : List Expression)
    (others : List Conjuncts) : joinAll first (flatten (first, conjuncts) others) =
      disjunction (first, conjuncts) others := by
  rw [joinAll, conjoin_flatten]
  rfl

end Expression

namespace Parse

section Heights

variable {position : Nat} {connective : Connective} {first left right whole : Measured}
  {others : List Measured} {rest : List (Connective × Measured)}

theorem height_of_join (joins : join position connective left right = .ok whole) :
    left.height < whole.height ∧ right.height < whole.height ∧ whole.height ≤ maxNesting := by
  unfold join measured at joins
  split at joins
  · cases joins
  · cases joins
    dsimp only
    omega

theorem heights_of_disjunctions
    (joins : others.foldlM (join position .either) first = .ok whole) :
    (∀ member ∈ first :: others, member.height ≤ whole.height) ∧
      (others = [] ∧ whole = first ∨ whole.height ≤ maxNesting) := by
  induction others generalizing first with
  | nil =>
    cases joins
    simp
  | cons next others ih =>
    obtain ⟨joined, one, more⟩ := ok_of_bind joins
    have heights := height_of_join one
    obtain ⟨below, bounded⟩ := ih more
    simp only [List.forall_mem_cons] at below ⊢
    refine ⟨⟨by omega, by omega, below.2⟩, .inr ?_⟩
    rcases bounded with ⟨_, rfl⟩ | bounded
    · exact heights.2.2
    · exact bounded

theorem heights_of_conjunctions (joins : conjunctions position first rest = .ok (whole, others)) :
    (∀ member ∈ first :: rest.map (·.2), ∃ joined ∈ whole :: others,
      member.height ≤ joined.height) ∧
      (others = [] → rest = [] ∧ whole = first ∨ whole.height ≤ maxNesting) := by
  induction rest generalizing first whole others with
  | nil =>
    cases joins
    simp
  | cons operand rest ih =>
    obtain ⟨connective, right⟩ := operand
    rw [List.map_cons]
    dsimp only
    cases connective with
    | both =>
      obtain ⟨joined, one, more⟩ := ok_of_bind joins
      have heights := height_of_join one
      obtain ⟨below, bounded⟩ := ih more
      obtain ⟨⟨top, listed, high⟩, later⟩ := List.forall_mem_cons.mp below
      refine ⟨List.forall_mem_cons.mpr ⟨⟨top, listed, by omega⟩,
        List.forall_mem_cons.mpr ⟨⟨top, listed, by omega⟩, later⟩⟩, fun alone => .inr ?_⟩
      rcases bounded alone with ⟨_, rfl⟩ | bounded
      · exact heights.2.2
      · exact bounded
    | either =>
      obtain ⟨⟨head, tail⟩, more, done⟩ := ok_of_bind joins
      cases done
      refine ⟨List.forall_mem_cons.mpr ⟨⟨first, List.mem_cons_self, Nat.le_refl _⟩, ?_⟩, nofun⟩
      intro member listed
      obtain ⟨top, held, high⟩ := (ih more).1 member listed
      exact ⟨top, List.mem_cons_of_mem _ held, high⟩

/-- Several operands are joined only if all of them are low enough. -/
theorem heights_of_combine (joins : combine position first rest = .ok whole) (several : rest ≠ []) :
    ∀ member ∈ first :: rest.map (·.2), member.height ≤ maxNesting := by
  rw [combine_eq] at joins
  obtain ⟨⟨head, others⟩, conjoined, disjoined⟩ := ok_of_bind joins
  obtain ⟨below, alone⟩ := heights_of_conjunctions conjoined
  obtain ⟨inside, bounded⟩ := heights_of_disjunctions disjoined
  have low : whole.height ≤ maxNesting := by
    rcases bounded with ⟨none, rfl⟩ | bounded
    · exact (alone none).resolve_left fun lone => several lone.1
    · exact bounded
  intro member listed
  obtain ⟨top, held, high⟩ := below member listed
  exact Nat.le_trans high (Nat.le_trans (inside top held) low)

end Heights

/-- The heights of the operands need not be known to be low, unless there is only one of them: the
tree of several is too high if one of them is. -/
theorem combine_measure_of_several (position : Nat) {first : Expression}
    {rest : List (Connective × Expression)} (alone : rest = [] → first.height ≤ maxNesting) :
    combine position (measure first) (rest.map measureRight) =
      bounded position (first.joinAll rest) := by
  by_cases low : first.height ≤ maxNesting ∧ ∀ operand ∈ rest, operand.2.height ≤ maxNesting
  · exact combine_measure position low.1 low.2
  · have several : rest.map measureRight ≠ [] := by
      intro none
      have empty := List.map_eq_nil_iff.mp none
      exact low ⟨alone empty, by simp [empty]⟩
    have high : maxNesting < (first.joinAll rest).height := by
      refine Nat.lt_of_not_le fun fits => low ⟨?_, fun operand listed => ?_⟩
      · exact Nat.le_trans (Expression.height_le_joinAll first rest) fits
      · exact Nat.le_trans (Expression.height_le_joinAll_of_mem first rest operand listed) fits
    rw [bounded_of_lt position high]
    rcases checks_combine (measure first) (rest.map measureRight) with ⟨whole, joins⟩ | refused
    · have heights := heights_of_combine (joins position) several
      rw [List.map_map] at heights
      obtain ⟨lowFirst, lowRest⟩ := List.forall_mem_cons.mp heights
      exact absurd ⟨lowFirst, List.forall_mem_map.mp lowRest⟩ low
    · exact refused position

namespace Folding

/-- The states that folding comes to in a number of rounds. -/
inductive Reaches (position : Nat) (start : Folding) : Nat → Folding → Prop where
  | start : Reaches position start 0 start
  | round {count : Nat} {folding next : Folding} (reached : Reaches position start count folding)
      (inside : folding.place < folding.connectives.length)
      (done : folding.round position = .ok next) : Reaches position start (count + 1) next

variable {position count rounds : Nat} {start folding : Folding} {left : List Measured}

/-- Every round has dealt with one connective, and the place is at most behind the last one. -/
theorem Reaches.invariant (reached : start.Reaches position count folding)
    (balanced : start.Balanced) (front : start.place ≤ start.connectives.length) :
    count + folding.remaining = start.remaining ∧ folding.Balanced ∧
      folding.place ≤ folding.connectives.length := by
  induction reached with
  | start => exact ⟨Nat.zero_add _, balanced, front⟩
  | round _ inside done ih =>
    obtain ⟨less, within, kept⟩ := of_round done
    exact ⟨by omega, kept ih.2.1, within⟩

theorem Balanced.operands_ne_nil (balanced : folding.Balanced) : folding.operands ≠ [] := by
  apply List.ne_nil_of_length_pos
  unfold Balanced at balanced
  omega

theorem Balanced.run_ne_nil (balanced : folding.Balanced)
    (done : folding.run position rounds = .ok left) : left ≠ [] := by
  induction rounds generalizing folding with
  | zero =>
    rw [run] at done
    split at done
    · cases done
    · cases done
      exact balanced.operands_ne_nil
  | succ rounds ih =>
    by_cases inside : folding.place < folding.connectives.length
    · rw [run_of_inside inside] at done
      obtain ⟨next, first, done⟩ := ok_of_bind done
      exact ih ((of_round first).2.2 balanced) done
    · rw [run_of_ended inside] at done
      cases done
      exact balanced.operands_ne_nil

end Folding

theorem mapError_combine (position : Nat) (first : Measured)
    (rest : List (Connective × Measured)) : (combine position first rest).mapError .refused =
      fold position (first :: rest.map (·.2)) (rest.map (·.1)) :=
  mapError_conclude _ _

theorem fold_measure (position : Nat) {first : Expression} {rest : List (Connective × Expression)}
    (alone : rest = [] → first.height ≤ maxNesting) :
    fold position (measure first :: rest.map fun operand => measure operand.2)
        (rest.map Prod.fst) =
      (bounded position (first.joinAll rest)).mapError .refused := by
  rw [← combine_measure_of_several position alone, mapError_combine, List.map_map, List.map_map]
  rfl

/-- Folding the operands of a disjunction of conjunctions with their true heights gives this
disjunction with its true height, or finds it too high exactly if it is. Folding comes to an end and
stays inside its lists: each round deals with one connective, leaves one operand more than there are
connectives, and takes out and puts in only where there is something. So there are always operands
left for the disjunctions. A single operand is not looked at again; its reader has seen to it that
it is measured with its true height, and that this is low enough. -/
theorem folds_in_place (position : Nat) (first : Expression)
    (rest : List (Connective × Expression)) :
    let operands := measure first :: rest.map fun operand => measure operand.2
    let connectives := rest.map Prod.fst
    (∃ (conjuncts : List Expression) (others : List Expression.Conjuncts),
      rest = Expression.flatten (first, conjuncts) others) ∧
      (∀ (conjuncts : List Expression) (others : List Expression.Conjuncts),
        rest = Expression.flatten (first, conjuncts) others →
          let tree := Expression.disjunction (first, conjuncts) others
          (rest = [] → first.height ≤ maxNesting) →
            fold position operands connectives =
              if maxNesting < tree.height then .error (.refused ⟨.nestingTooDeep, position⟩)
              else .ok ⟨tree, tree.height⟩) ∧
      (rest = [] → fold position operands connectives = .ok (measure first)) ∧
      Concludes (fold position operands connectives) ∧
      (∀ count folding, Folding.Reaches position ⟨operands, connectives, 0⟩ count folding →
        count + folding.remaining = rest.length ∧
          folding.operands.length = folding.connectives.length + 1 ∧
          folding.place ≤ folding.connectives.length ∧
          (folding.place < folding.connectives.length →
            folding.round position ≠ .error .outside)) ∧
      (∀ rounds left, Folding.run position rounds ⟨operands, connectives, 0⟩ = .ok left →
        left ≠ []) ∧
      ∀ budget cursor operand next, readOperand budget cursor = .ok (operand, next) →
        operand = measure operand.expression ∧ operand.expression.height ≤ maxNesting := by
  intro operands connectives
  have balanced : (⟨operands, connectives, 0⟩ : Folding).Balanced := by
    simp [Folding.Balanced, operands, connectives]
  have remaining : (⟨operands, connectives, 0⟩ : Folding).remaining = rest.length := by
    simp [Folding.remaining, connectives]
  refine ⟨Expression.exists_flatten first rest, ?_, ?_, concludes_fold position balanced, ?_,
    fun _ _ => balanced.run_ne_nil, ?_⟩
  · rintro conjuncts others rfl tree alone
    rw [fold_measure position alone, Expression.joinAll_flatten, bounded, measured]
    split <;> rfl
  · rintro rfl
    rfl
  · intro count folding reached
    obtain ⟨counted, kept, within⟩ := reached.invariant balanced (Nat.zero_le _)
    rw [remaining] at counted
    exact ⟨counted, kept, within, fun inside => (kept.concludes_round position inside).1⟩
  · intro budget cursor operand next read
    obtain ⟨_, _, _, fits, rfl⟩ := readOperand_sound budget cursor operand next read
    exact ⟨rfl, fits⟩

/-- A conjunction of two operands before a third one: the first round joins the two and stays where
it is. Behind an operand of the greatest height any other one makes the tree too high. -/
theorem folds_in_place_mixed :
    fold 4 [measure (.chain []), measure (.negation (.chain [])), measure (.chain [.wildcard none])]
        [.both, .either] =
      .ok ⟨.joined .either (.joined .both (.chain []) (.negation (.chain [])))
        (.chain [.wildcard none]), 4⟩ ∧
      1 + Folding.remaining ⟨[⟨.joined .both (.chain []) (.negation (.chain [])), 3⟩,
        measure (.chain [.wildcard none])], [.either], 0⟩ = 2 ∧
      fold 257 [measure (Expression.negation^[255] (.chain [])), measure (.chain [])] [.either] =
        .error (.refused ⟨.nestingTooDeep, 257⟩) := by
  obtain ⟨_, mixed, _, _, rounds, _⟩ := folds_in_place 4 (.chain [])
    [(.both, .negation (.chain [])), (.either, .chain [.wildcard none])]
  obtain ⟨_, high, _⟩ := folds_in_place 257 (Expression.negation^[255] (.chain []))
    [(.either, .chain [])]
  refine ⟨mixed [.negation (.chain [])] [(.chain [.wildcard none], [])] rfl nofun,
    (rounds 1 _ (.round .start (by decide) rfl)).1, ?_⟩
  exact (high [] [(.chain [], [])] rfl nofun).trans (if_pos (by decide +kernel))

end Parse

end JsonQuery
