import JsonQuery.Proofs.Evaluation.Remembering
import JsonQuery.Proofs.Evaluation.Repeating
import JsonQuery.Settings

/-! What a pass remembers cannot be noticed. Asked for parts of an expression on some inputs,
again and again and in any order, a pass answers as if it evaluated each of them afresh, and
compiles the same patterns. -/

namespace JsonQuery

/-- Join a selection with the one of the right side, which is looked at only if the left side
leaves the result open. -/
def Connective.joinWith {m : Type → Type} [Monad m] (connective : Connective)
    (left : Selection) (right : m Selection) : m Selection :=
  match connective with
  | both => if left.truthy then do return left.intersect (← right) else return .empty
  | either => if left.truthy then return left else do return left.union (← right)

theorem Connective.joinWith_eq {m : Type → Type} [Monad m] (connective : Connective)
    (left : Selection) (right : m Selection) :
    connective.joinWith left right =
      if connective.isOpen left then do return connective.join left (← right)
      else return connective.join left .empty := by
  unfold joinWith isOpen
  cases connective with
  | both | either => cases truthy : left.truthy <;> simp [join, truthy]

theorem Pass.mem_memo_remembering (place : Place) (label : Nat) (run : Passing Selection)
    (pass : Pass) : (place, label) ∈ ((remembering place label run).run pass).2.memo := by
  cases found : pass.memo[(place, label)]? with
  | some held =>
    rw [run_remembering_some found, Std.HashMap.mem_iff_isSome_getElem?, found]
    rfl
  | none =>
    rw [run_remembering_none found]
    exact Std.HashMap.mem_insert_self

namespace Expression

variable [PatternEngine]

/-- Evaluate an expression on a value without remembering the selections of its parts. -/
def evaluateAfresh (value : Json) : Expression → Compiling Selection
  | chain segments => do return .nodes (← segments.walk [Node.root value])
  | negation operand => do return .verdict !(← operand.evaluateAfresh value).truthy
  | joined connective left right => do
    connective.joinWith (← left.evaluateAfresh value) (right.evaluateAfresh value)

theorem repeatable_evaluateAfresh (value : Json) (expression : Expression) :
    Repeatable (expression.evaluateAfresh value) := by
  induction expression with
  | chain segments => exact (segments.repeatable_walk _).map _
  | negation operand ih => exact ih.map _
  | joined connective left right leftIh rightIh =>
    refine leftIh.bind fun first => ?_
    rw [Connective.joinWith_eq]
    split
    · exact rightIh.map _
    · exact .pure _

end Expression

namespace Pass

section Mirroring

variable [PatternEngine] {whole : Expression} {inputs : Nat → Json}

/-- Whatever is remembered is what evaluating the part at its place afresh gives, now and with
any patterns that may be compiled later, and this compiles nothing. -/
def Faithful (whole : Expression) (inputs : Nat → Json) (pass : Pass) : Prop :=
  ∀ place label held, pass.memo[(place, label)]? = some held →
    ∃ part, whole.part? place = some part ∧
      ∀ larger : PatternTable, larger.Extends pass.patterns →
        (part.evaluateAfresh (inputs label)).run larger = (held, larger)

theorem faithful_start (patterns : PatternTable) : (start patterns).Faithful whole inputs :=
  fun place label held found => by simp [start] at found

/-- From every faithful pass a computation gives the result of another one that remembers
nothing, and it compiles the same patterns. The pass stays faithful and forgets nothing. -/
def Mirrors {α : Type} (whole : Expression) (inputs : Nat → Json) (run : Passing α)
    (plain : Compiling α) : Prop :=
  ∀ pass, Faithful whole inputs pass →
    plain.run pass.patterns = ((run.run pass).1, (run.run pass).2.patterns) ∧
      Faithful whole inputs (run.run pass).2 ∧
      ∀ key ∈ pass.memo, key ∈ (run.run pass).2.memo

namespace Mirrors

variable {α β : Type}

theorem pure (result : α) : Mirrors whole inputs (pure result) (pure result) :=
  fun _ faithful => ⟨rfl, faithful, fun _ known => known⟩

theorem bind {run : Passing α} {plain : Compiling α} {next : α → Passing β}
    {plainNext : α → Compiling β} (first : Mirrors whole inputs run plain)
    (second : ∀ result, Mirrors whole inputs (next result) (plainNext result)) :
    Mirrors whole inputs (run >>= next) (plain >>= plainNext) := by
  intro pass faithful
  obtain ⟨same, between, kept⟩ := first pass faithful
  obtain ⟨sameNext, after, keptNext⟩ := second (run.run pass).1 (run.run pass).2 between
  have split : (plain >>= plainNext).run pass.patterns =
      (plainNext (plain.run pass.patterns).1).run (plain.run pass.patterns).2 := rfl
  rw [same] at split
  exact ⟨split.trans sameNext, after, fun key known => keptNext key (kept key known)⟩

theorem map {run : Passing α} {plain : Compiling α} (change : α → β)
    (mirrors : Mirrors whole inputs run plain) :
    Mirrors whole inputs (do return change (← run)) (do return change (← plain)) :=
  mirrors.bind fun _ => .pure _

theorem mapM {ask : α → Passing β} {plainAsk : α → Compiling β} (requests : List α)
    (mirrors : ∀ request, Mirrors whole inputs (ask request) (plainAsk request)) :
    Mirrors whole inputs (requests.mapM ask) (requests.mapM plainAsk) := by
  induction requests with
  | nil => exact .pure []
  | cons request rest ih =>
    rw [List.mapM_cons, List.mapM_cons]
    exact (mirrors request).bind fun _ => ih.map _

theorem compiling {run : Compiling α} (repeatable : Repeatable run) :
    Mirrors whole inputs (Pass.compiling run) run := by
  intro pass faithful
  refine ⟨rfl, fun place label held found => ?_, fun key known => known⟩
  obtain ⟨part, lies, again⟩ := faithful place label held found
  exact ⟨part, lies, fun larger above => again larger (above.trans (repeatable _).1)⟩

theorem joinWith {run : Passing Selection} {plain : Compiling Selection} (connective : Connective)
    (left : Selection) (mirrors : Mirrors whole inputs run plain) :
    Mirrors whole inputs (connective.joinWith left run) (connective.joinWith left plain) := by
  rw [Connective.joinWith_eq, Connective.joinWith_eq]
  split
  · exact mirrors.map _
  · exact .pure _

end Mirrors

/-- To remember what evaluating a part gives is to evaluate it afresh, as the same patterns are
compiled when it is evaluated and none when it is remembered. -/
theorem mirrors_remembering {place : Place} {label : Nat} {part : Expression}
    (lies : whole.part? place = some part) {run : Passing Selection}
    (mirrors : Mirrors whole inputs run (part.evaluateAfresh (inputs label))) :
    Mirrors whole inputs (remembering place label run)
      (part.evaluateAfresh (inputs label)) := by
  intro pass faithful
  cases found : pass.memo[(place, label)]? with
  | some held =>
    rw [run_remembering_some found]
    obtain ⟨other, otherLies, again⟩ := faithful place label held found
    obtain rfl : part = other := Option.some.inj (lies.symm.trans otherLies)
    exact ⟨again pass.patterns (.refl _), faithful, fun _ known => known⟩
  | none =>
    rw [run_remembering_none found]
    obtain ⟨same, between, kept⟩ := mirrors pass faithful
    refine ⟨same, fun otherPlace otherLabel held recalled => ?_, fun key known => ?_⟩
    · rcases remembered_of_insert recalled with ⟨equal, rfl⟩ | old
      · obtain ⟨rfl, rfl⟩ := Prod.mk.inj equal
        have again := (part.repeatable_evaluateAfresh (inputs label) pass.patterns).2
        rw [same] at again
        exact ⟨part, lies, again⟩
      · exact between otherPlace otherLabel held old
    · exact Std.HashMap.mem_insert.mpr (.inr (kept key known))

theorem mirrors_evaluate {place : Place} {part : Expression} (label : Nat)
    (lies : whole.part? place = some part) :
    Mirrors whole inputs (evaluate ⟨label, inputs label⟩ place part)
      (part.evaluateAfresh (inputs label)) := by
  induction part generalizing place with
  | chain segments =>
    rw [evaluate_chain]
    exact mirrors_remembering lies ((Mirrors.compiling (segments.repeatable_walk _)).map _)
  | negation operand ih =>
    rw [evaluate_negation]
    exact mirrors_remembering lies ((ih (Expression.part?_operand .operand lies rfl)).map _)
  | joined connective left right leftIh rightIh =>
    have first := leftIh (Expression.part?_operand .left lies rfl)
    have second := rightIh (Expression.part?_operand .right lies rfl)
    rw [evaluate_joined]
    refine mirrors_remembering lies (first.bind fun selection => ?_)
    rw [joining, ← Connective.joinWith_eq]
    exact second.joinWith connective selection

/-- Evaluate the part of an expression that lies at a place on the input with a label, if there
is such a part. -/
def ask (whole : Expression) (inputs : Nat → Json) (request : Place × Nat) :
    Passing (Option Selection) :=
  match whole.part? request.1 with
  | none => return none
  | some part => do return some (← evaluate ⟨request.2, inputs request.2⟩ request.1 part)

/-- The same without remembering anything. -/
def askAfresh (whole : Expression) (inputs : Nat → Json) (request : Place × Nat) :
    Compiling (Option Selection) :=
  match whole.part? request.1 with
  | none => return none
  | some part => do return some (← part.evaluateAfresh (inputs request.2))

theorem mirrors_ask (request : Place × Nat) :
    Mirrors whole inputs (ask whole inputs request) (askAfresh whole inputs request) := by
  unfold ask askAfresh
  cases lies : whole.part? request.1 with
  | none => exact .pure none
  | some part => exact (mirrors_evaluate request.2 lies).map _

theorem mem_memo_ask {request : Place × Nat} (lies : (whole.part? request.1).isSome = true)
    (pass : Pass) : request ∈ ((ask whole inputs request).run pass).2.memo := by
  obtain ⟨part, lies⟩ := Option.isSome_iff_exists.mp lies
  have run : ((ask whole inputs request).run pass).2 =
      ((evaluate ⟨request.2, inputs request.2⟩ request.1 part).run pass).2 := by
    unfold ask
    rw [lies]
    rfl
  rw [run]
  cases part with
  | chain => rw [evaluate_chain]; exact mem_memo_remembering ..
  | negation => rw [evaluate_negation]; exact mem_memo_remembering ..
  | joined => rw [evaluate_joined]; exact mem_memo_remembering ..

theorem remembered_of_asked (requests : List (Place × Nat)) (pass : Pass)
    (faithful : pass.Faithful whole inputs) :
    ∀ request ∈ requests, (whole.part? request.1).isSome = true →
      request ∈ ((requests.mapM (ask whole inputs)).run pass).2.memo := by
  induction requests generalizing pass with
  | nil => exact fun request member => nomatch member
  | cons first rest ih =>
    obtain ⟨_, between, _⟩ := mirrors_ask first pass faithful
    have kept := (Mirrors.mapM rest mirrors_ask _ between).2.2
    rw [run_mapM_cons]
    intro request member lies
    rcases List.mem_cons.mp member with rfl | later
    · exact kept request (mem_memo_ask lies pass)
    · exact ih _ between request later lies

/-- Asked for any parts on any inputs in any order, a pass gives the answers that evaluating all
of them afresh gives, and compiles the same patterns. All that it remembers is what evaluating
the part afresh gives, without compiling anything more, and it remembers all that it was asked
for. -/
theorem answers_afresh (whole : Expression) (inputs : Nat → Json) (patterns : PatternTable)
    (requests : List (Place × Nat)) :
    let run := (requests.mapM (ask whole inputs)).run (start patterns)
    (requests.mapM (askAfresh whole inputs)).run patterns = (run.1, run.2.patterns) ∧
      (∀ place label held, run.2.memo[(place, label)]? = some held →
        ∃ part, whole.part? place = some part ∧
          (part.evaluateAfresh (inputs label)).run run.2.patterns = (held, run.2.patterns)) ∧
      ∀ request ∈ requests, (whole.part? request.1).isSome = true → request ∈ run.2.memo := by
  intro run
  have mirrors : Mirrors whole inputs (requests.mapM (ask whole inputs))
      (requests.mapM (askAfresh whole inputs)) := .mapM requests mirrors_ask
  obtain ⟨same, faithful, _⟩ := mirrors (start patterns) (faithful_start patterns)
  refine ⟨same, fun place label held found => ?_, remembered_of_asked requests _ ?_⟩
  · obtain ⟨part, lies, again⟩ := faithful place label held found
    exact ⟨part, lies, again _ (.refl _)⟩
  · exact faithful_start patterns

end Mirroring

/-- Two inputs that are asked for in turn are told apart by their labels, also if a negation and
its operand are asked for on both. -/
theorem answers_afresh_alternating :
    let inputs := fun label => if label = 0 then Json.null else .object [("a", .null)]
    ((([([], 0), ([], 1), ([.operand], 1), ([], 0)] : List (Place × Nat)).mapM
        (ask (.negation (.chain [.property "a" none none])) inputs)).run (start .empty)).1 =
      [some (.verdict true), some (.verdict false), some (.nodes [.part [0] .null]),
        some (.verdict true)] := by
  intro inputs
  have afresh := (answers_afresh (.negation (.chain [.property "a" none none])) inputs .empty
    [([], 0), ([], 1), ([.operand], 1), ([], 0)]).1
  rw [← congrArg Prod.fst afresh]
  rfl

end Pass

end JsonQuery
