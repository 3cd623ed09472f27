import JsonQuery.Proofs.Query.FilterReading
import Mathlib

/-! Whether a text is cut inside a longer operator. The longer operators are looked for first, so
that one with something on either side is never parted. One with nothing but white space on a side
cuts no text, and then its characters are looked for as operators by themselves. -/

namespace JsonQuery

namespace Comparison

/-- The character at a position of a text is part of an operator that occurs there. -/
def OccursAt (operator : Comparison) (text : List Char) (position : Nat) : Prop :=
  ∃ before after, text = before ++ (operator.written ++ after) ∧ before.length ≤ position ∧
    position < before.length + operator.written.length

variable {operator longer : Comparison} {left right : List Char}

theorem precedes_of_length (double : longer.written.length = 2)
    (single : operator.written.length = 1) : longer.Precedes operator := by
  cases longer <;> cases operator <;>
    first | decide | exact absurd single (by decide) | exact absurd double (by decide)

/-- The character of an operator is the second one of a longer operator or the first one. -/
theorem occursAt_iff (double : longer.written.length = 2) (single : operator.written.length = 1) :
    longer.OccursAt (left ++ (operator.written ++ right)) left.length ↔
      (∃ before, left ++ operator.written = before ++ longer.written) ∨
        ∃ after, operator.written ++ right = longer.written ++ after := by
  constructor
  · rintro ⟨before, after, whole, reached, inside⟩
    rw [double] at inside
    obtain here | next : left.length = before.length ∨ left.length = before.length + 1 := by omega
    · exact .inr ⟨after, (List.append_inj whole here).2⟩
    · have lengths : (left ++ operator.written).length = (before ++ longer.written).length := by
        rw [List.length_append, List.length_append, single, double, next]
      rw [← List.append_assoc, ← List.append_assoc] at whole
      exact .inl ⟨before, (List.append_inj whole lengths).1⟩
  · rintro (⟨before, whole⟩ | ⟨after, whole⟩)
    · have lengths := congrArg List.length whole
      rw [List.length_append, List.length_append, single, double] at lengths
      refine ⟨before, right, ?_, by omega, by omega⟩
      rw [← List.append_assoc, whole, List.append_assoc]
    · exact ⟨left, after, by rw [whole], Nat.le_refl _, by omega⟩

end Comparison

namespace Filter

variable {text left right before after : List Char} {operator longer : Comparison}

/-- Where a text is cut by a part of a longer operator that has something on either side, the longer
operator cuts it as well. -/
theorem Cuts.of_part (cuts : Cuts operator text left right)
    (part : operator.written <:+: longer.written)
    (whole : text = before ++ (longer.written ++ after)) (inLeft : before <:+: left)
    (inRight : after <:+: right) (leftSome : ∃ char ∈ before, Text.isBlank char = false)
    (rightSome : ∃ char ∈ after, Text.isBlank char = false) : Cuts longer text before after where
  whole := whole
  leftFree inside := cuts.leftFree (part.trans (inside.trans inLeft))
  rightFree inside := cuts.rightFree (part.trans (inside.trans inRight))
  leftSome := leftSome
  rightSome := rightSome

/-- If a text is cut at the end of a longer operator, nothing but white space is before it. -/
theorem Cuts.blank_before (cuts : Cuts operator text left right) (none : NoneBefore operator text)
    (double : longer.written.length = 2) (single : operator.written.length = 1)
    (whole : left ++ operator.written = before ++ longer.written) :
    ∀ char ∈ before, Text.isBlank char = true := by
  intro char member
  by_contra visible
  have lengths := congrArg List.length whole
  rw [List.length_append, List.length_append, single, double] at lengths
  have part : operator.written <:+ longer.written :=
    List.suffix_of_suffix_length_le (List.suffix_append left _) ⟨before, whole.symm⟩ (by omega)
  have inLeft : before <+: left :=
    List.prefix_of_prefix_length_le ⟨longer.written, whole.symm⟩ (List.prefix_append _ _) (by omega)
  have around : text = before ++ (longer.written ++ right) := by
    rw [cuts.whole, ← List.append_assoc, whole, List.append_assoc]
  exact none longer before right (Comparison.precedes_of_length double single)
    (cuts.of_part part.isInfix around inLeft.isInfix List.infix_rfl
      ⟨char, member, Bool.eq_false_iff.mpr visible⟩ cuts.rightSome)

theorem Cuts.blank_behind (cuts : Cuts operator text left right) (none : NoneBefore operator text)
    (double : longer.written.length = 2) (single : operator.written.length = 1)
    (whole : operator.written ++ right = longer.written ++ after) :
    ∀ char ∈ after, Text.isBlank char = true := by
  intro char member
  by_contra visible
  have lengths := congrArg List.length whole
  rw [List.length_append, List.length_append, single, double] at lengths
  have part : operator.written <+: longer.written :=
    List.prefix_of_prefix_length_le (List.prefix_append _ right) ⟨after, whole.symm⟩ (by omega)
  have inRight : after <:+ right :=
    List.suffix_of_suffix_length_le ⟨longer.written, whole.symm⟩ (List.suffix_append _ _) (by omega)
  have around : text = left ++ (longer.written ++ after) := by rw [cuts.whole, whole]
  exact none longer left after (Comparison.precedes_of_length double single)
    (cuts.of_part part.isInfix around List.infix_rfl inRight.isInfix cuts.leftSome
      ⟨char, member, Bool.eq_false_iff.mpr visible⟩)

/-- No longer operator is parted, unless it has nothing but white space on a side: the character at
which a text is cut is part of a longer operator exactly if all that stands up to it is white space
and the longer operator, or all that stands from it on is the longer operator and white space. -/
theorem parts_longer_iff {path : Path} {value : Literal}
    (reads : read text = comparison operator path value)
    (single : operator.written.length = 1) :
    ∃ left right, Cuts operator text left right ∧
      comparison operator path value = ofSides operator left right ∧
      ∀ longer : Comparison, longer.written.length = 2 →
        (longer.OccursAt text left.length ↔
          (∃ before, left ++ operator.written = before ++ longer.written ∧
              ∀ char ∈ before, Text.isBlank char = true) ∨
            ∃ after, operator.written ++ right = longer.written ++ after ∧
              ∀ char ∈ after, Text.isBlank char = true) := by
  rcases read_cases text with ⟨onlyPath, _⟩ | ⟨found, left, right, sides, cuts, none⟩
  · rw [onlyPath] at reads
    cases reads
  rw [sides] at reads
  cases reads
  refine ⟨left, right, cuts, rfl, fun longer double => ?_⟩
  rw [cuts.whole, Comparison.occursAt_iff double single]
  constructor
  · rintro (⟨before, whole⟩ | ⟨after, whole⟩)
    · exact .inl ⟨before, whole, cuts.blank_before none double single whole⟩
    · exact .inr ⟨after, whole, cuts.blank_behind none double single whole⟩
  · rintro (⟨before, whole, _⟩ | ⟨after, whole, _⟩)
    · exact .inl ⟨before, whole⟩
    · exact .inr ⟨after, whole⟩

/-- A text with a longer operator twice, so that it is cut at the only sign besides. -/
theorem parts_longer_iff_repeated :
    read "a>=b>=c<d".toList = comparison .less ⟨"a>=b>=c"⟩ (.string "d") ∧
      Comparison.less.written.length = 1 ∧
      ∃ left right, Cuts .less "a>=b>=c<d".toList left right ∧
        ∀ longer : Comparison, longer.written.length = 2 →
          ¬ longer.OccursAt "a>=b>=c<d".toList left.length := by
  have reads : read "a>=b>=c<d".toList = comparison .less ⟨"a>=b>=c"⟩ (.string "d") := by cbv
  obtain ⟨left, right, cuts, _, parts_iff⟩ := parts_longer_iff reads rfl
  obtain ⟨rfl, rfl⟩ : left = "a>=b>=c".toList ∧ right = "d".toList := by
    have cut : Text.split '<' [] "a>=b>=c<d".toList = ["a>=b>=c".toList, "d".toList] := by cbv
    simpa using cuts.split_eq.symm.trans cut
  refine ⟨reads, rfl, _, _, cuts, fun longer double occurs => ?_⟩
  rcases (parts_iff longer double).mp occurs with ⟨before, whole, _⟩ | ⟨after, whole, _⟩
  · have last := congrArg List.getLast? whole
    cases longer <;> simp [Comparison.written, Comparison.symbol] at double last
  · cases longer <;> simp [Comparison.written, Comparison.symbol] at double whole

/-- A longer operator with nothing behind it is parted at its sign, one with nothing before it at
its equality. -/
theorem longer_parted :
    read "a>=".toList = comparison .greater ⟨"a"⟩ (.string "=") ∧
      Cuts .greater "a>=".toList "a".toList "=".toList ∧
      Comparison.greaterOrEqual.OccursAt "a>=".toList "a".toList.length ∧
      read ">=b".toList = comparison .equal ⟨">"⟩ (.string "b") ∧
      Cuts .equal ">=b".toList ">".toList "b".toList ∧
      Comparison.greaterOrEqual.OccursAt ">=b".toList ">".toList.length := by
  have behind : Text.split '>' [] "a>=".toList = ["a".toList, "=".toList] := by cbv
  have before : Text.split '=' [] ">=b".toList = [">".toList, "b".toList] := by cbv
  obtain ⟨whole, leftFree, rightFree⟩ :=
    (Text.split_eq_pair_iff Comparison.greater.fresh).mp behind
  obtain ⟨wholeToo, leftFreeToo, rightFreeToo⟩ :=
    (Text.split_eq_pair_iff Comparison.equal.fresh).mp before
  exact ⟨by cbv, ⟨whole, leftFree, rightFree, ⟨'a', .head _, rfl⟩, ⟨'=', .head _, rfl⟩⟩,
    ⟨"a".toList, [], rfl, by decide, by decide⟩, by cbv,
    ⟨wholeToo, leftFreeToo, rightFreeToo, ⟨'>', .head _, rfl⟩, ⟨'b', .head _, rfl⟩⟩,
    ⟨[], "b".toList, rfl, by decide, by decide⟩⟩

end Filter

end JsonQuery
