import JsonQuery.Proofs.Evaluation.Walking

/-! A pass is sound if it remembers the selections of the parts of one expression, and has
compiled what these needed. Evaluating a part in a sound pass gives its selection, whether
or not it is remembered. -/

namespace JsonQuery

namespace Expression

def operand? : Expression → Branch → Option Expression
  | negation operand, .operand => some operand
  | joined _ left _, .left => some left
  | joined _ _ right, .right => some right
  | _, _ => none

/-- The part of an expression that lies at a place. -/
def part? (whole : Expression) : Place → Option Expression
  | [] => some whole
  | branch :: place => (whole.part? place).bind (·.operand? branch)

theorem part?_operand {whole part operand : Expression} {place : Place} (branch : Branch)
    (found : whole.part? place = some part) (step : part.operand? branch = some operand) :
    whole.part? (branch :: place) = some operand := by
  rw [part?, found, Option.bind_some, step]

end Expression

namespace Pass

def texts (pass : Pass) : List String := pass.patterns.texts

/-- Look for a remembered selection first, and remember what is evaluated otherwise. -/
def remembering (place : Place) (label : Nat) (run : Passing Selection) : Passing Selection := do
  match (← get).memo[(place, label)]? with
  | some held => return held
  | none =>
    let selection ← run
    remember place label selection
    return selection

theorem run_remembering_some {place : Place} {label : Nat} {run : Passing Selection} {pass : Pass}
    {held : Selection} (found : pass.memo[(place, label)]? = some held) :
    (remembering place label run).run pass = (held, pass) := by
  simp only [remembering, StateT.run_bind, StateT.run_get, pure_bind, found]
  rfl

theorem run_remembering_none {place : Place} {label : Nat} {run : Passing Selection} {pass : Pass}
    (absent : pass.memo[(place, label)]? = none) :
    (remembering place label run).run pass = ((run.run pass).1,
      { (run.run pass).2 with
        memo := (run.run pass).2.memo.insert (place, label) (run.run pass).1 }) := by
  simp only [remembering, StateT.run_bind, StateT.run_get, pure_bind, absent]
  rfl

theorem remembered_of_insert {memo : Std.HashMap (Place × Nat) Selection} {key other : Place × Nat}
    {selection held : Selection} (found : (memo.insert key selection)[other]? = some held) :
    key = other ∧ selection = held ∨ memo[other]? = some held := by
  rw [Std.HashMap.getElem?_insert] at found
  split at found
  · rename_i equal
    exact .inl ⟨beq_iff_eq.mp equal, Option.some.inj found⟩
  · exact .inr found

variable [PatternEngine]

/-- Every remembered selection is that of the part at its place on the input with its label,
and the patterns tested for it are compiled. -/
structure Sound (whole : Expression) (inputs : Nat → Json) (pass : Pass) : Prop where
  patterns : pass.patterns.Sound
  remembered : ∀ place label held, pass.memo[(place, label)]? = some held →
    ∃ part, whole.part? place = some part ∧ held = part.selection (inputs label) ∧
      ∀ text ∈ part.testedTexts (inputs label), text ∈ pass.texts

variable {whole : Expression} {inputs : Nat → Json}

theorem sound_start {patterns : PatternTable} (sound : patterns.Sound) :
    (start patterns).Sound whole inputs where
  patterns := sound
  remembered place label held found := by simp [start] at found

/-- From every sound pass a computation gives the result, and it compiles the patterns of the
texts that are not compiled yet. -/
abbrev Evaluates {α : Type} (whole : Expression) (inputs : Nat → Json) (run : Passing α)
    (result : α) (texts : List String) : Prop :=
  Yields (Sound whole inputs) Pass.texts run result texts

theorem evaluates_compiling {α : Type} {run : Compiling α} {result : α} {texts : List String}
    (compiles : Compiles run result texts) :
    Evaluates whole inputs (compiling run) result texts := by
  intro pass sound
  obtain ⟨same, patterns, learned⟩ := compiles pass.patterns sound.patterns
  have after : (compiling run).run pass =
      ((run.run pass.patterns).1, { pass with patterns := (run.run pass.patterns).2 }) := rfl
  rw [after]
  refine ⟨same, ⟨patterns, fun place label held found => ?_⟩, learned⟩
  obtain ⟨part, lies, selected, compiled⟩ := sound.remembered place label held found
  exact ⟨part, lies, selected, fun text tested => (learned text).mpr (.inl (compiled text tested))⟩

theorem evaluates_remembering {place : Place} {label : Nat} {part : Expression}
    (found : whole.part? place = some part) {run : Passing Selection}
    (evaluates : Evaluates whole inputs run (part.selection (inputs label))
      (part.testedTexts (inputs label))) :
    Evaluates whole inputs (remembering place label run) (part.selection (inputs label))
      (part.testedTexts (inputs label)) := by
  intro pass sound
  cases held : pass.memo[(place, label)]? with
  | some selection =>
    obtain ⟨other, lies, selected, compiled⟩ := sound.remembered place label selection held
    obtain rfl : part = other := Option.some.inj (found.symm.trans lies)
    rw [run_remembering_some held]
    -- What is remembered tests nothing again, but all that it would test is compiled.
    exact ⟨selected, sound, fun text => (or_iff_left_of_imp (compiled text)).symm⟩
  | none =>
    obtain ⟨same, between, learned⟩ := evaluates pass sound
    rw [run_remembering_none held]
    refine ⟨same, ⟨between.patterns, fun otherPlace otherLabel selection recalled => ?_⟩, learned⟩
    rcases remembered_of_insert recalled with ⟨equal, rfl⟩ | old
    · obtain ⟨rfl, rfl⟩ := Prod.mk.inj equal
      exact ⟨part, found, same, fun text tested => (learned text).mpr (.inr tested)⟩
    · exact between.remembered otherPlace otherLabel selection old

theorem evaluate_chain (input : Input) (place : Place) (segments : Chain) :
    evaluate input place (.chain segments) = remembering place input.label
      (do return .nodes (← compiling (segments.walk [Node.root input.value]))) := by
  rw [evaluate]
  rfl

theorem evaluate_negation (input : Input) (place : Place) (operand : Expression) :
    evaluate input place (.negation operand) = remembering place input.label
      (do return .verdict !(← evaluate input (.operand :: place) operand).truthy) := by
  rw [evaluate]
  rfl

/-- Join a selection with what a computation selects, which is run only if the first
selection leaves the result open. -/
def joining (connective : Connective) (left : Selection) (right : Passing Selection) :
    Passing Selection :=
  if connective.isOpen left then do return connective.join left (← right)
  else return connective.join left .empty

theorem evaluate_joined (input : Input) (place : Place) (connective : Connective)
    (left right : Expression) :
    evaluate input place (.joined connective left right) = remembering place input.label (do
      let first ← evaluate input (.left :: place) left
      joining connective first (evaluate input (.right :: place) right)) := by
  rw [evaluate, remembering]
  refine bind_congr fun pass => ?_
  cases pass.memo[(place, input.label)]? with
  | some held => rfl
  | none =>
    cases connective with
    | both | either =>
      simp only [bind_assoc]
      refine bind_congr fun first => ?_
      cases truthy : first.truthy <;>
        simp [joining, Connective.isOpen, Connective.join, truthy]

/-- A side that is not looked at does not matter. -/
theorem evaluates_joining {connective : Connective} {left right : Selection}
    {run : Passing Selection} {texts : List String}
    (evaluates : Evaluates whole inputs run right texts) :
    Evaluates whole inputs (joining connective left run) (connective.join left right)
      (if connective.isOpen left then texts else []) := by
  unfold joining
  split
  · exact evaluates.map _
  · rename_i closed
    have same : connective.join left right = connective.join left .empty := by
      cases connective <;> simp_all [Connective.isOpen, Connective.join]
    rw [same]
    exact .pure _

theorem evaluates_evaluate {place : Place} {part : Expression} (label : Nat)
    (found : whole.part? place = some part) :
    Evaluates whole inputs (evaluate ⟨label, inputs label⟩ place part)
      (part.selection (inputs label)) (part.testedTexts (inputs label)) := by
  induction part generalizing place with
  | chain segments =>
    rw [evaluate_chain]
    exact evaluates_remembering found ((evaluates_compiling (segments.compiles_walk _)).map _)
  | negation operand ih =>
    rw [evaluate_negation]
    exact evaluates_remembering found ((ih (Expression.part?_operand .operand found rfl)).map _)
  | joined connective left right leftIh rightIh =>
    have first := leftIh (Expression.part?_operand .left found rfl)
    have second := rightIh (Expression.part?_operand .right found rfl)
    rw [evaluate_joined]
    exact evaluates_remembering found (first.bind (evaluates_joining second))

end Pass

end JsonQuery
