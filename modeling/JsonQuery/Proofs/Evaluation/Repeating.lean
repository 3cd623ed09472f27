import JsonQuery.Evaluation.Walk

/-! Testing filters and walking chains can be repeated. What was compiled the first time is
found the second time, also if other patterns were compiled in between, so that the result is
the same and nothing is compiled again. This holds of every table, whatever it holds. -/

namespace JsonQuery

/-- Every text of the other table has the same pattern in this one. -/
def PatternTable.Extends (larger table : PatternTable) : Prop :=
  ∀ text held, table.entries.lookup text = some held → larger.entries.lookup text = some held

namespace PatternTable.Extends

theorem refl (table : PatternTable) : table.Extends table :=
  fun _ _ found => found

theorem trans {largest larger table : PatternTable} (outer : largest.Extends larger)
    (inner : larger.Extends table) : largest.Extends table :=
  fun text held found => outer text held (inner text held found)

/-- A pattern that is added under a text without one hides nothing. -/
theorem added {table : PatternTable} {text : String} (pattern : Option Matcher)
    (absent : table.entries.lookup text = none) :
    Extends ⟨(text, pattern) :: table.entries⟩ table := by
  intro other held found
  by_cases same : other = text
  · rw [same, absent] at found
    cases found
  · rw [List.lookup_cons, beq_false_of_ne same]
    exact found

end PatternTable.Extends

/-- A computation only adds to the table. Once it was run, it gives the same result on every
larger table, and adds nothing to it. -/
def Repeatable {α : Type} (run : Compiling α) : Prop :=
  ∀ table, (run.run table).2.Extends table ∧
    ∀ larger : PatternTable, larger.Extends (run.run table).2 →
      run.run larger = ((run.run table).1, larger)

namespace Repeatable

variable {α β : Type}

theorem pure (result : α) : Repeatable (pure result) :=
  fun table => ⟨.refl table, fun _ _ => rfl⟩

theorem bind {run : Compiling α} {next : α → Compiling β} (first : Repeatable run)
    (second : ∀ result, Repeatable (next result)) : Repeatable (run >>= next) := by
  intro table
  obtain ⟨grown, again⟩ := first table
  obtain ⟨grownMore, againNext⟩ := second (run.run table).1 (run.run table).2
  refine ⟨grownMore.trans grown, fun larger above => ?_⟩
  -- The larger table also extends the one between the two computations.
  have repeated := again larger (above.trans grownMore)
  calc (run >>= next).run larger
      = (next (run.run larger).1).run (run.run larger).2 := rfl
    _ = (next (run.run table).1).run larger := by rw [repeated]
    _ = _ := againNext larger above

theorem map {run : Compiling α} (change : α → β) (repeatable : Repeatable run) :
    Repeatable (do return change (← run)) :=
  repeatable.bind fun _ => .pure _

end Repeatable

variable [PatternEngine]

theorem PatternTable.repeatable_compile (text : String) : Repeatable (compile text) := by
  intro table
  cases found : table.entries.lookup text with
  | some held =>
    rw [run_compile_of_held found]
    exact ⟨.refl table, fun larger above => run_compile_of_held (above text held found)⟩
  | none =>
    rw [run_compile_of_absent found]
    refine ⟨.added _ found, fun larger above => run_compile_of_held (above text _ ?_)⟩
    rw [List.lookup_cons_self]

namespace Filter

theorem repeatable_test (filter : Filter) (item : Json) : Repeatable (filter.test item) := by
  cases filter with
  | existence path => exact .pure _
  | comparison operator path value =>
    cases operator with
    | equal | greater | less | greaterOrEqual | lessOrEqual => exact .pure _
    | matching =>
      refine (PatternTable.repeatable_compile value.patternText).bind fun compiled => ?_
      cases compiled <;> exact .pure _

theorem repeatable_keep (filter : Filter) (nodes : List Node) :
    Repeatable (filter.keep nodes) := by
  induction nodes with
  | nil => exact .pure []
  | cons node rest ih => exact (filter.repeatable_test node.value).bind fun _ => ih.map _

theorem repeatable_keepIf (filter : Option Filter) (nodes : List Node) :
    Repeatable (keepIf filter nodes) := by
  cases filter with
  | none => exact .pure nodes
  | some filter => exact filter.repeatable_keep nodes

end Filter

namespace Segment

theorem repeatable_spread (filter : Option Filter) (slice : Option Slice) (member : Node) :
    Repeatable (spread filter slice member) := by
  unfold spread
  cases member.value with
  | array items => exact (Filter.repeatable_keepIf filter member.children).map _
  | null | bool | number | string | object => cases filter <;> exact .pure _

theorem repeatable_reachMembers (name : String) (filter : Option Filter) (slice : Option Slice)
    (nodes : List Node) : Repeatable (reachMembers name filter slice nodes) := by
  induction nodes with
  | nil => exact .pure []
  | cons node rest ih =>
    unfold reachMembers
    cases node.member? name with
    | none => exact ih.map _
    | some member => exact (repeatable_spread filter slice member).bind fun _ => ih.map _

theorem repeatable_explore (filter : Filter) (visited taken : List Identity)
    (pending : List Node) : Repeatable (explore filter visited taken pending) := by
  fun_induction explore filter visited taken pending with
  | case1 => exact .pure []
  | case2 visited taken node rest null ih => exact ih
  | case3 visited taken node rest notNull seen ih => exact ih
  | case4 visited taken node rest notNull unseen visitedNow takenNext skippedNext =>
    refine (filter.repeatable_test _).bind fun passes => ?_
    split
    · exact takenNext.map _
    · exact skippedNext

theorem repeatable_reach (segment : Segment) (nodes : List Node) :
    Repeatable (segment.reach nodes) := by
  cases segment with
  | property name filter slice => exact repeatable_reachMembers name filter slice nodes
  | wildcard filter => exact Filter.repeatable_keepIf filter _
  | deepWildcard filter =>
    cases filter with
    | none => exact .pure []
    | some filter => exact repeatable_explore filter [] [] nodes

end Segment

theorem Chain.repeatable_walk (chain : Chain) (nodes : List Node) :
    Repeatable (chain.walk nodes) := by
  induction chain generalizing nodes with
  | nil => exact .pure nodes
  | cons segment rest ih =>
    refine (segment.repeatable_reach nodes).bind fun reached => ?_
    split
    · exact .pure []
    · exact ih reached

end JsonQuery
