import JsonQuery.Proofs.Evaluation.Meaning

/-! Tables of patterns are sound if they hold what reading their texts gives, each text
once. Computations with a sound table give results that do not depend on it, and add to it
the texts of the patterns that they test. -/

namespace JsonQuery

theorem run_mapM_cons {σ α β : Type} (step : α → StateM σ β) (first : α) (rest : List α)
    (state : σ) :
    ((first :: rest).mapM step).run state =
      let (answer, between) := (step first).run state
      let (answers, last) := (rest.mapM step).run between
      (answer :: answers, last) := by
  rw [List.mapM_cons]
  rfl

section Yields

variable {σ α β : Type} {sound : σ → Prop} {known : σ → List String}

/-- From every sound state a computation gives the result, leaves a sound state behind and
adds the texts to those known. -/
def Yields (sound : σ → Prop) (known : σ → List String) (run : StateM σ α) (result : α)
    (added : List String) : Prop :=
  ∀ state, sound state → (run.run state).1 = result ∧ sound (run.run state).2 ∧
    ∀ text, text ∈ known (run.run state).2 ↔ text ∈ known state ∨ text ∈ added

namespace Yields

theorem pure (result : α) : Yields sound known (pure result) result [] :=
  fun _ holds => ⟨rfl, holds, fun _ => (or_iff_left List.not_mem_nil).symm⟩

theorem bind {run : StateM σ α} {next : α → StateM σ β} {first : α} {last : β}
    {texts others : List String} (before : Yields sound known run first texts)
    (after : Yields sound known (next first) last others) :
    Yields sound known (run >>= next) last (texts ++ others) := by
  intro state holds
  obtain ⟨result, between, learned⟩ := before state holds
  obtain ⟨final, holdsStill, learnedMore⟩ := after _ between
  -- The first result is the same from every sound state: only the state is handed on.
  have split : (run >>= next).run state = (next first).run (run.run state).2 := by
    rw [StateT.run_bind, ← result]
    rfl
  rw [split]
  refine ⟨final, holdsStill, fun text => ?_⟩
  rw [learnedMore, learned, List.mem_append, or_assoc]

/-- Only which texts are added matters, not how often or in which order. -/
theorem congr {run : StateM σ α} {result : α} {texts others : List String}
    (yields : Yields sound known run result texts)
    (same : ∀ text, text ∈ texts ↔ text ∈ others) : Yields sound known run result others := by
  intro state holds
  obtain ⟨first, second, learned⟩ := yields state holds
  exact ⟨first, second, fun text => by rw [learned, same]⟩

theorem map {run : StateM σ α} {result : α} {texts : List String} (change : α → β)
    (yields : Yields sound known run result texts) :
    Yields sound known (do return change (← run)) (change result) texts :=
  (bind yields (pure (change result))).congr fun text => by simp

end Yields

end Yields

namespace PatternTable

def texts (table : PatternTable) : List String := table.entries.map Prod.fst

/-- A table holds what reading its texts gives, each text once. -/
structure Sound [PatternEngine] (table : PatternTable) : Prop where
  compiled : ∀ entry ∈ table.entries, entry.2 = PatternEngine.matcher? entry.1
  distinct : table.texts.Nodup

theorem sound_empty [PatternEngine] : empty.Sound where
  compiled := by simp [empty]
  distinct := .nil

theorem size_eq_length_texts (table : PatternTable) : table.size = table.texts.length :=
  List.length_map .. |>.symm

end PatternTable

/-- From every sound table of patterns a computation gives the result, and it compiles the
patterns of the texts that are not in the table. -/
abbrev Compiles [PatternEngine] {α : Type} (run : Compiling α) (result : α)
    (texts : List String) : Prop :=
  Yields PatternTable.Sound PatternTable.texts run result texts

theorem PatternTable.compiles_compile [PatternEngine] (text : String) :
    Compiles (compile text) (PatternEngine.matcher? text) [text] := by
  intro table sound
  cases held : table.entries.lookup text with
  | some pattern =>
    obtain ⟨before, after, split, _⟩ := List.lookup_eq_some_iff.mp held
    have member : (text, pattern) ∈ table.entries := by simp [split]
    have present : text ∈ table.texts := List.mem_map.mpr ⟨_, member, rfl⟩
    rw [run_compile_of_held held]
    -- Nothing is added, and nothing has to be: the text is there already.
    refine ⟨sound.compiled _ member, sound, fun other => ?_⟩
    constructor
    · exact .inl
    · rintro (known | same)
      · exact known
      · rwa [List.mem_singleton.mp same]
  | none =>
    have absent : text ∉ table.texts := by
      intro present
      obtain ⟨entry, member, same⟩ := List.mem_map.mp present
      have different := List.lookup_eq_none_iff.mp held entry member
      simp [same] at different
    rw [run_compile_of_absent held]
    refine ⟨rfl, ⟨?_, List.nodup_cons.mpr ⟨absent, sound.distinct⟩⟩, fun other => ?_⟩
    · intro entry member
      rcases List.mem_cons.mp member with rfl | old
      · rfl
      · exact sound.compiled entry old
    · simp [texts, or_comm]

namespace Filter

theorem mem_textsOn {filter : Option Filter} {nodes : List Node} {text : String} :
    text ∈ textsOn filter nodes ↔ nodes ≠ [] ∧ filter.bind patternText? = some text := by
  unfold textsOn
  cases nodes <;> simp

theorem mem_textsOn_append {filter : Option Filter} {nodes others : List Node} {text : String} :
    text ∈ textsOn filter (nodes ++ others) ↔
      text ∈ textsOn filter nodes ∨ text ∈ textsOn filter others := by
  rw [mem_textsOn, mem_textsOn, mem_textsOn]
  cases nodes <;> simp

variable [PatternEngine]

theorem compiles_test (filter : Filter) (item : Json) :
    Compiles (filter.test item) (filter.accepts item) filter.patternText?.toList := by
  cases filter with
  | existence path => exact .pure _
  | comparison operator path value =>
    cases operator with
    | equal | greater | less | greaterOrEqual | lessOrEqual => exact .pure _
    | matching =>
      refine (Yields.bind (PatternTable.compiles_compile value.patternText) ?_ :
        Compiles _ _ ([value.patternText] ++ []))
      rw [accepts_matching]
      cases PatternEngine.matcher? value.patternText with
      | none => exact .pure false
      | some occurs => exact .pure _

theorem compiles_keep (filter : Filter) (nodes : List Node) :
    Compiles (filter.keep nodes) (among (some filter) nodes) (textsOn (some filter) nodes) := by
  induction nodes with
  | nil => exact .pure []
  | cons node rest ih =>
    have kept : among (some filter) (node :: rest) =
        if filter.accepts node.value then node :: among (some filter) rest
        else among (some filter) rest := by
      simp only [among_some, List.filter_cons]
    rw [kept]
    refine ((compiles_test filter node.value).bind (ih.map _)).congr fun text => ?_
    rw [List.mem_append, mem_textsOn, mem_textsOn]
    simp

theorem compiles_keepIf (filter : Option Filter) (nodes : List Node) :
    Compiles (keepIf filter nodes) (among filter nodes) (textsOn filter nodes) := by
  cases filter with
  | none => exact (Yields.pure nodes).congr fun text => by simp [mem_textsOn]
  | some filter => exact compiles_keep filter nodes

end Filter

end JsonQuery
