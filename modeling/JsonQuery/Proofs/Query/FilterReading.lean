import JsonQuery.Proofs.Query.Operators
import JsonQuery.Proofs.Text.Split

/-! How the text of a filter is read: by the first operator that occurs once in it and has
something on either side, or else as a path. -/

namespace JsonQuery

namespace Text

theorem cleanEnds_trim (text : List Char) : CleanEnds isBlank (trim text) := by
  obtain ⟨_, _, _, _, _, clean⟩ := exists_trimBy isBlank text
  exact clean

theorem CleanEnds.exists_visible {text : List Char} (clean : CleanEnds isBlank text)
    (nonempty : text ≠ []) : ∃ char ∈ text, isBlank char = false := by
  obtain ⟨first, rest, rfl⟩ := List.exists_cons_of_ne_nil nonempty
  exact ⟨first, List.mem_cons_self, clean.1 first rfl⟩

theorem trim_ne_nil_iff {text : List Char} :
    trim text ≠ [] ↔ ∃ char ∈ text, isBlank char = false := by
  obtain ⟨left, right, leftBlank, rightBlank, whole, clean⟩ := exists_trimBy isBlank text
  constructor
  · intro nonempty
    obtain ⟨char, member, visible⟩ := clean.exists_visible nonempty
    exact ⟨char, whole ▸ List.mem_append_right left (List.mem_append_left right member), visible⟩
  · rintro ⟨char, member, visible⟩ empty
    rw [whole, show trimBy isBlank text = [] from empty, List.nil_append] at member
    rcases List.mem_append.mp member with early | late
    · rw [leftBlank char early] at visible
      cases visible
    · rw [rightBlank char late] at visible
      cases visible

end Text

namespace Filter

/-- An operator occurs once in a text, and neither side of it is blank. -/
structure Cuts (operator : Comparison) (text left right : List Char) : Prop where
  whole : text = left ++ (operator.written ++ right)
  leftFree : ¬ operator.written <:+: left
  rightFree : ¬ operator.written <:+: right
  leftSome : ∃ char ∈ left, Text.isBlank char = false
  rightSome : ∃ char ∈ right, Text.isBlank char = false

/-- The comparison that two sides of an operator read as. -/
def ofSides (operator : Comparison) (left right : List Char) : Filter :=
  comparison operator ⟨String.ofList (Text.trim left)⟩ (Literal.read (Text.trim right))

/-- No operator that is looked for before this one cuts the text. -/
def NoneBefore (operator : Comparison) (text : List Char) : Prop :=
  ∀ earlier left right, earlier.Precedes operator → ¬ Cuts earlier text left right

variable {text left right : List Char} {operator : Comparison} {filter : Filter}

theorem Cuts.split_eq (cuts : Cuts operator text left right) :
    Text.split operator.symbol.1 operator.symbol.2 text = [left, right] :=
  (Text.split_eq_pair_iff operator.fresh).mpr ⟨cuts.whole, cuts.leftFree, cuts.rightFree⟩

theorem readComparison?_eq_some_iff :
    readComparison? text operator = some filter ↔
      ∃ left right, Cuts operator text left right ∧ filter = ofSides operator left right := by
  constructor
  · intro found
    unfold readComparison? at found
    split at found
    · rename_i path value parts
      obtain ⟨left, rest, cut, rfl, behind⟩ := List.map_eq_cons_iff.mp parts
      obtain ⟨right, nothing, rfl, rfl, ends⟩ := List.map_eq_cons_iff.mp behind
      obtain rfl := List.map_eq_nil_iff.mp ends
      obtain ⟨whole, leftFree, rightFree⟩ := (Text.split_eq_pair_iff operator.fresh).mp cut
      by_cases sides : Text.trim left ≠ [] ∧ Text.trim right ≠ []
      · rw [if_pos sides] at found
        exact ⟨left, right, ⟨whole, leftFree, rightFree, Text.trim_ne_nil_iff.mp sides.1,
          Text.trim_ne_nil_iff.mp sides.2⟩, (Option.some.inj found).symm⟩
      · rw [if_neg sides] at found
        cases found
    · cases found
  · rintro ⟨left, right, cuts, rfl⟩
    have sides : Text.trim left ≠ [] ∧ Text.trim right ≠ [] :=
      ⟨Text.trim_ne_nil_iff.mpr cuts.leftSome, Text.trim_ne_nil_iff.mpr cuts.rightSome⟩
    unfold readComparison?
    rw [cuts.split_eq]
    exact if_pos sides

theorem Cuts.readComparison? (cuts : Cuts operator text left right) :
    readComparison? text operator = some (ofSides operator left right) :=
  readComparison?_eq_some_iff.mpr ⟨left, right, cuts, rfl⟩

theorem readComparison?_eq_none_iff :
    readComparison? text operator = none ↔ ∀ left right, ¬ Cuts operator text left right := by
  constructor
  · intro none left right cuts
    rw [cuts.readComparison?] at none
    cases none
  · intro free
    rw [Option.eq_none_iff_forall_not_mem]
    intro filter found
    obtain ⟨left, right, cuts, _⟩ := readComparison?_eq_some_iff.mp found
    exact free left right cuts

theorem mem_operators (operator : Comparison) : operator ∈ operators := by
  cases operator <;> decide

private theorem mem_of_precedes {before after : List Comparison} {earlier : Comparison}
    (split : operators = before ++ operator :: after) (precedes : earlier.Precedes operator) :
    earlier ∈ before := by
  by_contra outside
  unfold Comparison.Precedes at precedes
  rw [split, List.idxOf_append, List.idxOf_append, if_neg outside] at precedes
  split at precedes
  · rename_i inside
    have := List.idxOf_lt_length_of_mem inside
    omega
  · rw [List.idxOf_cons_self] at precedes
    omega

/-- A text reads as a path if no operator cuts it, and else by the first one that does. -/
theorem read_cases (text : List Char) :
    read text = existence ⟨String.ofList (Text.trim text)⟩ ∧
        (∀ operator left right, ¬ Cuts operator text left right) ∨
      ∃ operator left right, read text = ofSides operator left right ∧
        Cuts operator text left right ∧ NoneBefore operator text := by
  unfold read
  cases found : operators.findSome? (readComparison? text) with
  | none =>
    refine .inl ⟨rfl, fun operator => readComparison?_eq_none_iff.mp ?_⟩
    exact List.findSome?_eq_none_iff.mp found operator (mem_operators operator)
  | some filter =>
    obtain ⟨before, operator, after, split, here, none⟩ := List.findSome?_eq_some_iff.mp found
    obtain ⟨left, right, cuts, rfl⟩ := readComparison?_eq_some_iff.mp here
    refine .inr ⟨operator, left, right, rfl, cuts, fun earlier left right precedes => ?_⟩
    have passed := none earlier (mem_of_precedes split precedes)
    exact readComparison?_eq_none_iff.mp passed left right

theorem read_of_first (cuts : Cuts operator text left right) (first : NoneBefore operator text) :
    read text = ofSides operator left right := by
  rcases read_cases text with ⟨_, free⟩ | ⟨found, foundLeft, foundRight, reads, others, none⟩
  · exact absurd cuts (free operator left right)
  · rcases operator.precedes_cases found with before | rfl | after
    · exact absurd cuts (none operator left right before)
    · have same := others.readComparison?.symm.trans cuts.readComparison?
      rw [reads, Option.some.inj same]
    · exact absurd others (first found foundLeft foundRight after)

/-- A text that an earlier operator cuts does not read as a comparison with a later one. -/
theorem operator_ne_of_cuts {later : Comparison} {path : Path} {value : Literal}
    (cuts : Cuts operator text left right) (precedes : operator.Precedes later) :
    read text ≠ comparison later path value := by
  intro reads
  rcases read_cases text with ⟨_, free⟩ | ⟨found, foundLeft, foundRight, same, _, none⟩
  · exact free operator left right cuts
  · rw [same] at reads
    cases reads
    exact none operator left right precedes cuts

end Filter

end JsonQuery
