import JsonQuery.Proofs.Query.FilterReading
import JsonQuery.Proofs.Query.LiteralText

/-! Filters that are put together from their parts. A literal reads back from its text unless it is
a number that is not finite, and a filter does if no operator but its own stands in its text. -/

namespace JsonQuery

/-- The path has no white space at its ends and holds no character of an operator. -/
structure Path.Plain (path : Path) : Prop where
  cleanEnds : Text.CleanEnds Text.isBlank path.text.toList
  signless : Text.Signless path.text.toList

namespace Literal

theorem cleanEnds_written {value : Literal} (finite : value.isFinite = true) :
    Text.CleanEnds Text.isBlank value.written := by
  have clean := cleanEnds_written_read value.written
  rwa [read_written_of_isFinite finite] at clean

end Literal

namespace Filter

/-- The parts of a filter can be told apart in its text. A comparison has a path and a value that
can be written. -/
inductive Plain : Filter → Prop where
  | existence {path : Path} (plain : path.Plain) : Plain (existence path)
  | comparison {operator : Comparison} {path : Path} {value : Literal} (plain : path.Plain)
      (nonempty : path.text ≠ "") (finite : value.isFinite = true)
      (signless : Text.Signless value.written) : Plain (comparison operator path value)

variable {operator : Comparison} {text left right : List Char} {path : Path} {value : Literal}

theorem not_cuts_of_signless (signless : Text.Signless text) : ¬ Cuts operator text left right := by
  intro cuts
  have inside : operator.written <:+: text := by
    rw [cuts.whole]
    exact List.infix_append' _ _ _
  exact Comparison.not_infix_of_signless signless inside

/-- Between sides without operators only a part of the operator itself can be found, and no earlier
operator is one. -/
theorem noneBefore_of_signless (leftSignless : Text.Signless left)
    (rightSignless : Text.Signless right) :
    NoneBefore operator (left ++ (operator.written ++ right)) := by
  intro earlier before after precedes cuts
  have inside : earlier.written <:+: left ++ (operator.written ++ right) := by
    rw [cuts.whole]
    exact List.infix_append' _ _ _
  rw [Comparison.infix_signless_append leftSignless,
    Comparison.infix_append_signless rightSignless] at inside
  exact Comparison.not_infix_of_precedes precedes inside

theorem read_existence_of_plain (plain : path.Plain) :
    read (existence path).written = existence path := by
  rcases read_cases path.text.toList with ⟨reads, _⟩ | ⟨operator, left, right, _, cuts, _⟩
  · rw [written, reads, Text.trim, Text.trimBy_of_cleanEnds plain.cleanEnds, String.ofList_toList]
  · exact absurd cuts (not_cuts_of_signless plain.signless)

theorem cuts_of_plain (plain : path.Plain) (nonempty : path.text ≠ "")
    (finite : value.isFinite = true) (signless : Text.Signless value.written) :
    Cuts operator (path.text.toList ++ (operator.written ++ value.written)) path.text.toList
      value.written where
  whole := rfl
  leftFree := Comparison.not_infix_of_signless plain.signless
  rightFree := Comparison.not_infix_of_signless signless
  leftSome := by
    apply plain.cleanEnds.exists_visible
    simpa using nonempty
  rightSome := (Literal.cleanEnds_written finite).exists_visible (Literal.written_ne_nil finite)

theorem read_comparison_of_plain (plain : path.Plain) (nonempty : path.text ≠ "")
    (finite : value.isFinite = true) (signless : Text.Signless value.written) :
    read (comparison operator path value).written = comparison operator path value := by
  have first : NoneBefore operator (path.text.toList ++ (operator.written ++ value.written)) :=
    noneBefore_of_signless plain.signless signless
  have whole : (comparison operator path value).written =
      path.text.toList ++ (operator.written ++ value.written) := List.append_assoc _ _ _
  rw [whole, read_of_first (cuts_of_plain plain nonempty finite signless) first, ofSides, Text.trim,
    Text.trim, Text.trimBy_of_cleanEnds plain.cleanEnds,
    Text.trimBy_of_cleanEnds (Literal.cleanEnds_written finite),
    Literal.read_written_of_isFinite finite, String.ofList_toList]

/-- Every literal reads back from its text unless it is a number that is not finite, a string
whatever it consists of, and so does every filter whose parts can be told apart. -/
theorem plain_reads_back :
    (∀ value : Literal, value.isFinite = true → Literal.read value.written = value) ∧
      ∀ filter : Filter, filter.Plain → read filter.written = filter := by
  refine ⟨fun value finite => Literal.read_written_of_isFinite finite, fun filter plain => ?_⟩
  cases plain with
  | existence plain => exact read_existence_of_plain plain
  | comparison plain nonempty finite signless =>
    exact read_comparison_of_plain plain nonempty finite signless

/-- A string that ends with a quote and a blank, also behind a path with a gap. -/
theorem plain_reads_back_quoted :
    (Literal.string "12\x22 ").isFinite = true ∧
      Literal.read (Literal.string "12\x22 ").written = .string "12\x22 " ∧
      (comparison .lessOrEqual ⟨"size in"⟩ (.string "12\x22 ")).Plain ∧
      read "size in<=\x2212\x22 \x22".toList =
        comparison .lessOrEqual ⟨"size in"⟩ (.string "12\x22 ") := by
  have plain : (comparison .lessOrEqual ⟨"size in"⟩ (.string "12\x22 ")).Plain :=
    .comparison ⟨by decide, by decide⟩ (by decide) rfl (by decide)
  exact ⟨rfl, plain_reads_back.1 _ rfl, plain, plain_reads_back.2 _ plain⟩

end Filter

end JsonQuery
