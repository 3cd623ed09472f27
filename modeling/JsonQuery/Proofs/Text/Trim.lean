import JsonQuery.Text.Blank
import Mathlib.Data.List.DropRight

/-! Trimming: a text is its trimmed core between two runs of characters that pass the
test, and the core is the only one that neither begins nor ends with such a character. -/

namespace JsonQuery.Text

/-- Neither the first nor the last character passes the test. -/
def CleanEnds (test : Char → Bool) (text : List Char) : Prop :=
  (∀ char ∈ text.head?, test char = false) ∧ ∀ char ∈ text.getLast?, test char = false

instance (test : Char → Bool) (text : List Char) : Decidable (CleanEnds test text) :=
  decidable_of_iff ((text.head?.all fun char => !test char) ∧
    text.getLast?.all fun char => !test char) (by simp [CleanEnds, Option.all_eq_true])

variable {test : Char → Bool} {text core left right : List Char}

theorem CleanEnds.of_forall (clean : ∀ char ∈ text, test char = false) : CleanEnds test text :=
  ⟨fun char first => clean char (List.mem_of_head? first),
    fun char last => clean char (List.mem_of_getLast? last)⟩

theorem trimBy_eq_rdropWhile (test : Char → Bool) (text : List Char) :
    trimBy test text = (text.dropWhile test).rdropWhile test :=
  rfl

/-- A run ends where the text behind it does not go on with it. -/
theorem takeWhile_append (passes : ∀ char ∈ left, test char = true)
    (stops : ∀ char ∈ right.head?, test char = false) :
    (left ++ right).takeWhile test = left ∧ (left ++ right).dropWhile test = right := by
  have ends : right.takeWhile test = [] ∧ right.dropWhile test = right := by
    cases right with
    | nil => exact ⟨rfl, rfl⟩
    | cons char rest =>
      have outside : ¬ test char = true := Bool.eq_false_iff.mp (stops char rfl)
      exact ⟨List.takeWhile_cons_of_neg outside, List.dropWhile_cons_of_neg outside⟩
  constructor
  · rw [List.takeWhile_append_of_pos passes, ends.1, List.append_nil]
  · rw [List.dropWhile_append_of_pos passes, ends.2]

theorem head?_dropWhile (test : Char → Bool) (text : List Char) :
    ∀ char ∈ (text.dropWhile test).head?, test char = false := by
  intro char head
  have stops := List.head?_dropWhile_not test text
  rwa [Option.mem_def.mp head] at stops

private theorem dropWhile_of_head (clean : ∀ char ∈ text.head?, test char = false) :
    text.dropWhile test = text :=
  (takeWhile_append (List.forall_mem_nil _) clean).2

private theorem rdropWhile_append (clean : ∀ char ∈ core.getLast?, test char = false)
    (passes : ∀ char ∈ right, test char = true) : (core ++ right).rdropWhile test = core := by
  induction right using List.reverseRecOn with
  | nil =>
    rw [List.append_nil, List.rdropWhile_eq_self_iff]
    intro nonempty
    exact Bool.eq_false_iff.mp (clean _ (List.getLast?_eq_some_getLast nonempty))
  | append_singleton right last ih =>
    obtain ⟨earlier, lastPasses⟩ := List.forall_mem_append.mp passes
    rw [← List.append_assoc, List.rdropWhile_concat_pos _ _ _ (lastPasses last (by simp)), ih earlier]

theorem trimBy_of_cleanEnds (clean : CleanEnds test core) : trimBy test core = core := by
  have kept := rdropWhile_append clean.2 (List.forall_mem_nil _)
  rw [List.append_nil] at kept
  rw [trimBy_eq_rdropWhile, dropWhile_of_head clean.1, kept]

/-- What passes the test at both ends is cut, down to a core that does not. -/
theorem trimBy_append (leftPasses : ∀ char ∈ left, test char = true)
    (rightPasses : ∀ char ∈ right, test char = true) (clean : CleanEnds test core) :
    trimBy test (left ++ (core ++ right)) = core := by
  rw [trimBy_eq_rdropWhile, List.dropWhile_append_of_pos leftPasses]
  cases core with
  | nil =>
    have all : ∀ char ∈ right.dropWhile test, test char = true := fun char member =>
      rightPasses char (List.dropWhile_subset test member)
    exact List.rdropWhile_eq_nil_iff.mpr all
  | cons first rest =>
    have kept : (first :: rest ++ right).dropWhile test = first :: rest ++ right :=
      dropWhile_of_head fun char head => clean.1 char head
    rw [kept, rdropWhile_append clean.2 rightPasses]

/-- Every text is its trimmed core between two runs that are cut. -/
theorem exists_trimBy (test : Char → Bool) (text : List Char) :
    ∃ left right, (∀ char ∈ left, test char = true) ∧ (∀ char ∈ right, test char = true) ∧
      text = left ++ (trimBy test text ++ right) ∧ CleanEnds test (trimBy test text) := by
  refine ⟨text.takeWhile test, (text.dropWhile test).rtakeWhile test, ?_, ?_, ?_, ?_, ?_⟩
  · intro char member
    exact List.mem_takeWhile_imp member
  · intro char member
    exact List.mem_rtakeWhile_imp member
  · rw [trimBy_eq_rdropWhile, List.rdropWhile_append_rtakeWhile, List.takeWhile_append_dropWhile]
  · intro char first
    rw [trimBy_eq_rdropWhile] at first
    obtain ⟨rest, whole⟩ := List.rdropWhile_prefix test (text.dropWhile test)
    have firstToo : char ∈ (text.dropWhile test).head? := by
      rw [← whole, List.head?_append, first]
      rfl
    exact head?_dropWhile test text char firstToo
  · intro char last
    rw [trimBy_eq_rdropWhile] at last
    have nonempty : (text.dropWhile test).rdropWhile test ≠ [] := by
      intro empty
      rw [empty] at last
      cases last
    rw [← List.getLast_of_getLast?_eq_some last]
    exact Bool.eq_false_iff.mpr (List.rdropWhile_last_not test _ nonempty)

end JsonQuery.Text
