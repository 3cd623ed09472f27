import JsonQuery.Proofs.Query.Equality
import JsonQuery.Proofs.Query.FilterReading

/-! Which filters read back from their own text. Trimming moves an operator next to the end of
its path, and quotes put something behind the end of a string: either way an operator that
is looked for earlier may cut the text of a filter although it did not cut the text that the
filter was read from. -/

namespace JsonQuery

theorem Text.isOperatorChar_of_isNumeral {char : Char} (numeral : isNumeral char = true) :
    isOperatorChar char = false :=
  isOperatorChar_of_test numeral rfl rfl rfl rfl

theorem Text.Signless.quote {quote : Char} (double : quote = '\x22' ∨ quote = '\x27') :
    Signless [quote] := by
  rcases double with rfl | rfl <;> exact List.forall_mem_singleton.mpr rfl

namespace Literal

/-- A side of an operator holds no operators, or it is a string between two texts that hold
none. Either the string is trimmed or something besides white space stands behind it. -/
theorem read_trim_cases (text : List Char) :
    (Text.Signless (Text.trim text) ∧ Text.Signless (read (Text.trim text)).written) ∨
      ∃ before inner after, read (Text.trim text) = string (String.ofList inner) ∧
        text = before ++ (inner ++ after) ∧ Text.Signless before ∧ Text.Signless after ∧
        (Text.CleanEnds Text.isBlank inner ∨ ∃ char ∈ after, Text.isBlank char = false) := by
  obtain ⟨left, right, leftBlank, rightBlank, whole, clean⟩ := Text.exists_trimBy Text.isBlank text
  have trimmed : text = left ++ (Text.trim text ++ right) := whole
  rcases read_cases (Text.trim text) with ⟨finite, plain, numerals⟩ | ⟨inner, reads, shape⟩
  · refine .inl ⟨fun char member => ?_, fun char member => ?_⟩
    · exact Text.isOperatorChar_of_isNumeral (numerals char member)
    · exact Text.isOperatorChar_of_isNumeral (isNumeral_of_mem_written finite plain char member)
  · rcases shape with bare | ⟨quote, kind, quoted⟩
    · refine .inr ⟨left, inner, right, reads, ?_, .of_blank leftBlank, .of_blank rightBlank, .inl ?_⟩
      · rw [← bare, ← trimmed]
      · rw [← bare]
        exact clean
    · have sign : Text.Signless [quote] := .quote kind
      refine .inr ⟨left ++ [quote], inner, [quote] ++ right, reads, ?_,
        .append (.of_blank leftBlank) sign, sign.append (.of_blank rightBlank), .inr ?_⟩
      · rw [quoted] at trimmed
        rw [trimmed]
        simp
      · refine ⟨quote, List.mem_cons_self, ?_⟩
        rcases kind with rfl | rfl <;> decide

theorem infix_written_iff (operator : Comparison) (text : List Char) :
    operator.written <:+: (read (Text.trim text)).written ↔ operator.written <:+: text := by
  rcases read_trim_cases text with
    ⟨signless, plain⟩ | ⟨before, inner, after, reads, whole, front, back, _⟩
  · rw [← Comparison.infix_trim operator text]
    exact iff_of_false (Comparison.not_infix_of_signless plain)
      (Comparison.not_infix_of_signless signless)
  · have quote : Text.Signless ['\x22'] := .quote (.inl rfl)
    have text_iff : operator.written <:+: text ↔ operator.written <:+: inner := by
      rw [whole, Comparison.infix_signless_append front, Comparison.infix_append_signless back]
    have shape : (read (Text.trim text)).written = ['\x22'] ++ (inner ++ ['\x22']) := by
      rw [reads, written, String.toList_ofList]
      rfl
    rw [text_iff, shape, Comparison.infix_signless_append quote,
      Comparison.infix_append_signless quote]

theorem isOperatorChar_of_mem_head? {text : List Char} {char : Char}
    (first : char ∈ (read text).written.head?) : Text.isOperatorChar char = false := by
  rcases read_cases text with ⟨finite, plain, _⟩ | ⟨inner, reads, _⟩
  · have member := List.mem_of_head? first
    exact Text.isOperatorChar_of_isNumeral (isNumeral_of_mem_written finite plain char member)
  · rw [reads] at first
    obtain rfl := Option.some.inj first
    decide

end Literal

/-- Where the end of a text and an operator make an earlier operator, they make its two
characters. -/
theorem Comparison.joined_cases {operator earlier : Comparison} {path before : List Char}
    (precedes : earlier.Precedes operator)
    (ends : path ++ operator.written = before ++ earlier.written) :
    operator = equal ∧ earlier.symbol.2 = ['='] ∧ path = before ++ [earlier.symbol.1] := by
  have noWhole := not_infix_of_precedes precedes
  rcases List.append_eq_append_iff.mp ends with ⟨rest, _, inside⟩ | ⟨rest, rfl, parted⟩
  · exact absurd (List.IsSuffix.isInfix ⟨rest, inside.symm⟩) noWhole
  · rcases written_eq_append parted with ⟨_, same⟩ | ⟨nothing, _⟩ | ⟨double, rfl, sign⟩
    · exact absurd (same ▸ List.infix_refl _) noWhole
    · cases nothing
    · refine ⟨?_, double, rfl⟩
      cases operator <;> first | rfl | exact absurd sign (by decide)

namespace Filter

/-- An operator that is looked for before that of a filter cuts the text of the filter: it is
made of the end of the path and the operator, or it ends the string and is not found before. -/
inductive Confusable : Filter → Prop where
  | joined {earlier operator : Comparison} {path : Path} {value : Literal} {before : List Char}
      (precedes : earlier.Precedes operator) (nonempty : before ≠ [])
      (ends : path.text.toList ++ operator.written = before ++ earlier.written) :
      Confusable (comparison operator path value)
  | trailing {earlier operator : Comparison} {path : Path} {text : String} {start : List Char}
      (precedes : earlier.Precedes operator) (ends : text.toList = start ++ earlier.written)
      (pathFree : ¬ earlier.written <:+: path.text.toList) (startFree : ¬ earlier.written <:+: start) :
      Confusable (comparison operator path (.string text))

variable {text left right : List Char} {operator earlier : Comparison}

theorem ofSides_written (operator : Comparison) (left right : List Char) :
    (ofSides operator left right).written =
      Text.trim left ++ (operator.written ++ (Literal.read (Text.trim right)).written) := by
  rw [ofSides, written, String.toList_ofList, List.append_assoc]

theorem Cuts.written (cuts : Cuts operator text left right) :
    Cuts operator (ofSides operator left right).written (Text.trim left)
      (Literal.read (Text.trim right)).written where
  whole := ofSides_written operator left right
  leftFree := by
    rw [Comparison.infix_trim]
    exact cuts.leftFree
  rightFree := by
    rw [Literal.infix_written_iff]
    exact cuts.rightFree
  leftSome := (Text.cleanEnds_trim left).exists_visible (Text.trim_ne_nil_iff.mpr cuts.leftSome)
  rightSome := (Literal.cleanEnds_written_read _).exists_visible
    (Literal.written_ne_nil (Literal.isFinite_read _))

theorem ofSides_trim (operator : Comparison) (left right : List Char) :
    ofSides operator (Text.trim left) (Literal.read (Text.trim right)).written =
      ofSides operator left right := by
  have path : Text.trim (Text.trim left) = Text.trim left :=
    Text.trimBy_of_cleanEnds (Text.cleanEnds_trim left)
  have value : Text.trim (Literal.read (Text.trim right)).written =
      (Literal.read (Text.trim right)).written :=
    Text.trimBy_of_cleanEnds (Literal.cleanEnds_written_read _)
  rw [ofSides, ofSides, path, value, Literal.read_written_read]

theorem exists_visible_written (operator : Comparison) (before after : List Char) :
    ∃ char ∈ before ++ (operator.written ++ after), Text.isBlank char = false := by
  have first : operator.symbol.1 ∈ operator.written := List.mem_cons_self
  refine ⟨operator.symbol.1, List.mem_append_right _ (List.mem_append_left _ first), ?_⟩
  cases operator <;> decide

/-- An operator that cuts the written filter within its path cuts the original text. -/
theorem Cuts.of_path (cuts : Cuts operator text left right) (precedes : earlier.Precedes operator)
    {start rest : List Char} (inside : Text.trim left = start ++ (earlier.written ++ rest))
    (again : Cuts earlier (ofSides operator left right).written start
      (rest ++ (operator.written ++ (Literal.read (Text.trim right)).written))) :
    ∃ before after, Cuts earlier text before after := by
  obtain ⟨front, back, frontBlank, backBlank, whole, _⟩ := Text.exists_trimBy Text.isBlank left
  have around : left = front ++ (Text.trim left ++ back) := whole
  have noPart : ¬ operator.written <:+: earlier.written := by
    intro part
    have contained : earlier.written <:+: Text.trim left := inside ▸ List.infix_append' _ _ _
    exact cuts.leftFree ((Comparison.infix_trim operator left).mp (part.trans contained))
  have noWhole := Comparison.not_infix_of_precedes precedes
  have restFree := again.rightFree
  rw [Comparison.infix_around noPart noWhole, not_or, Literal.infix_written_iff] at restFree
  refine ⟨front ++ start, (rest ++ back) ++ (operator.written ++ right), ?_, ?_, ?_, ?_, ?_⟩
  · rw [cuts.whole, around, inside]
    simp
  · rw [Comparison.infix_signless_append (.of_blank frontBlank)]
    exact again.leftFree
  · rw [Comparison.infix_around noPart noWhole,
      Comparison.infix_append_signless (.of_blank backBlank), not_or]
    exact restFree
  · obtain ⟨char, member, visible⟩ := again.leftSome
    exact ⟨char, List.mem_append_right front member, visible⟩
  · exact exists_visible_written operator _ right

/-- An operator that cuts the written filter within its value cuts the original text, or it
is all that is left of a string behind its start. -/
theorem Cuts.of_value (cuts : Cuts operator text left right) (precedes : earlier.Precedes operator)
    {start rest : List Char}
    (inside : (Literal.read (Text.trim right)).written = start ++ (earlier.written ++ rest))
    (again : Cuts earlier (ofSides operator left right).written
      (Text.trim left ++ (operator.written ++ start)) rest) :
    (ofSides operator left right).Confusable ∨ ∃ before after, Cuts earlier text before after := by
  have contained : earlier.written <:+: (Literal.read (Text.trim right)).written :=
    inside ▸ List.infix_append' _ _ _
  have noPart : ¬ operator.written <:+: earlier.written := fun part =>
    cuts.rightFree ((Literal.infix_written_iff operator right).mp (part.trans contained))
  have noWhole := Comparison.not_infix_of_precedes precedes
  have startFree := again.leftFree
  rw [Comparison.infix_around noPart noWhole, not_or, Comparison.infix_trim] at startFree
  rcases Literal.read_trim_cases right with
    ⟨_, plain⟩ | ⟨front, inner, back, reads, whole, frontPlain, backPlain, ends⟩
  · exact absurd contained (Comparison.not_infix_of_signless plain)
  · have quote : Text.Signless ['\x22'] := .quote (.inl rfl)
    have quoted : start ++ (earlier.written ++ rest) = ['\x22'] ++ (inner ++ ['\x22']) := by
      rw [← inside, reads, Literal.written, String.toList_ofList]
      rfl
    obtain ⟨before, after, rfl, rfl, parts⟩ := Comparison.occurs_between quote quote quoted
    rw [Comparison.infix_signless_append quote] at startFree
    have afterFree := again.rightFree
    rw [Comparison.infix_append_signless quote] at afterFree
    by_cases visible : ∃ char ∈ after ++ back, Text.isBlank char = false
    · refine .inr ⟨left ++ (operator.written ++ (front ++ before)), after ++ back, ?_, ?_, ?_, ?_,
        visible⟩
      · rw [cuts.whole, whole, parts]
        simp
      · rw [Comparison.infix_around noPart noWhole, not_or,
          Comparison.infix_signless_append frontPlain]
        exact startFree
      · rw [Comparison.infix_append_signless backPlain]
        exact afterFree
      · exact exists_visible_written operator left _
    · left
      have nothing : after = [] := by
        rcases ends with clean | ⟨char, member, shown⟩
        · by_contra nonempty
          have last := List.getLast?_eq_some_getLast nonempty
          have lastToo : inner.getLast? = some (after.getLast nonempty) := by
            rw [parts, List.getLast?_append, List.getLast?_append, last]
            rfl
          exact visible ⟨_, List.mem_append_left back (List.getLast_mem nonempty),
            clean.2 _ lastToo⟩
        · exact absurd ⟨char, List.mem_append_right after member, shown⟩ visible
      rw [nothing, List.append_nil] at parts
      rw [ofSides, reads]
      have stringEnds : (String.ofList inner).toList = before ++ earlier.written := by
        rw [String.toList_ofList, parts]
      refine .trailing precedes stringEnds ?_ startFree.2
      rw [String.toList_ofList, Comparison.infix_trim]
      exact startFree.1

/-- An earlier operator that cuts the written filter cuts the original text as well, unless
the filter is confusable. -/
theorem Cuts.of_written (cuts : Cuts operator text left right)
    (precedes : earlier.Precedes operator) {start rest : List Char}
    (again : Cuts earlier (ofSides operator left right).written start rest) :
    (ofSides operator left right).Confusable ∨ ∃ before after, Cuts earlier text before after := by
  have whole := again.whole.symm
  rw [ofSides_written] at whole
  rcases Comparison.occurs_cases whole with
    ⟨behind, inside, rfl⟩ | ⟨before, inside, rfl⟩ | ⟨double, parted, starts⟩
  · exact .inr (cuts.of_path precedes inside again)
  · rcases Comparison.occurs_cases inside.symm with
      ⟨behind, inOperator, _⟩ | ⟨start, inValue, rfl⟩ | ⟨double, _, starts⟩
    · have part : earlier.written <:+: operator.written := inOperator ▸ List.infix_append' _ _ _
      exact absurd part (Comparison.not_infix_of_precedes precedes)
    · exact cuts.of_value precedes inValue again
    · have head : '=' ∈ (Literal.read (Text.trim right)).written.head? := by
        rw [starts]
        rfl
      exact absurd (Literal.isOperatorChar_of_mem_head? head) (by decide)
  · have equal : operator = .equal := by
      have first := (List.cons.inj starts).1
      cases operator <;> first | rfl | exact absurd first (by decide)
    obtain ⟨char, member, _⟩ := again.leftSome
    refine .inl (.joined precedes (List.ne_nil_of_mem member) ?_)
    rw [String.toList_ofList, parted, equal, Comparison.written, Comparison.written, double]
    exact List.append_assoc _ _ _

/-- An operator that is looked for earlier cuts the text of a confusable filter. -/
theorem Confusable.cuts (cuts : Cuts operator text left right)
    (confusable : (ofSides operator left right).Confusable) :
    ∃ earlier start rest, earlier.Precedes operator ∧
      Cuts earlier (ofSides operator left right).written start rest := by
  have own := cuts.written
  rw [ofSides_written]
  unfold ofSides at confusable
  generalize reads : Literal.read (Text.trim right) = value at confusable own ⊢
  cases confusable with
  | @joined earlier _ _ _ before precedes nonempty ends =>
    rw [String.toList_ofList] at ends
    obtain ⟨rfl, double, path⟩ := Comparison.joined_cases precedes ends
    have part : Comparison.equal.written <:+: earlier.written := by
      rw [Comparison.written, Comparison.written, double]
      exact ⟨[earlier.symbol.1], [], rfl⟩
    refine ⟨earlier, before, value.written, precedes, ?_, ?_, ?_, ?_, own.rightSome⟩
    · rw [← List.append_assoc, ends, List.append_assoc]
    · intro inside
      have longer : before <:+: Text.trim left := path ▸ List.infix_append_left
      exact own.leftFree ((part.trans inside).trans longer)
    · intro inside
      exact own.rightFree (part.trans inside)
    · obtain ⟨first, rest, rfl⟩ := List.exists_cons_of_ne_nil nonempty
      refine ⟨first, List.mem_cons_self, (Text.cleanEnds_trim left).1 first ?_⟩
      rw [path]
      rfl
  | @trailing earlier _ _ string start precedes ends pathFree startFree =>
    have quote : Text.Signless ['\x22'] := .quote (.inl rfl)
    have shape : (Literal.string string).written =
        (['\x22'] ++ start) ++ (earlier.written ++ ['\x22']) := by
      rw [Literal.written, ends]
      simp
    have noPart : ¬ operator.written <:+: earlier.written := by
      intro part
      have contained : earlier.written <:+: (Literal.string string).written :=
        shape ▸ List.infix_append' _ _ _
      exact own.rightFree (part.trans contained)
    have noWhole := Comparison.not_infix_of_precedes precedes
    rw [String.toList_ofList] at pathFree
    refine ⟨earlier, Text.trim left ++ (operator.written ++ (['\x22'] ++ start)), ['\x22'], precedes,
      ?_, ?_, ?_, exists_visible_written operator _ _, ?_⟩
    · rw [shape]
      simp
    · rw [Comparison.infix_around noPart noWhole, Comparison.infix_signless_append quote, not_or]
      exact ⟨pathFree, startFree⟩
    · exact Comparison.not_infix_of_signless quote
    · exact ⟨'\x22', List.mem_cons_self, by decide⟩

theorem Cuts.of_trim (cuts : Cuts operator (Text.trim text) left right) :
    ∃ before after, Cuts operator text before after := by
  obtain ⟨front, back, frontBlank, backBlank, whole, _⟩ := Text.exists_trimBy Text.isBlank text
  have around : text = front ++ (Text.trim text ++ back) := whole
  refine ⟨front ++ left, right ++ back, ?_, ?_, ?_, ?_, ?_⟩
  · rw [around, cuts.whole]
    simp
  · rw [Comparison.infix_signless_append (.of_blank frontBlank)]
    exact cuts.leftFree
  · rw [Comparison.infix_append_signless (.of_blank backBlank)]
    exact cuts.rightFree
  · obtain ⟨char, member, visible⟩ := cuts.leftSome
    exact ⟨char, List.mem_append_right front member, visible⟩
  · obtain ⟨char, member, visible⟩ := cuts.rightSome
    exact ⟨char, List.mem_append_left back member, visible⟩

theorem read_trim_of_free (free : ∀ operator left right, ¬ Cuts operator text left right) :
    read (Text.trim text) = existence ⟨String.ofList (Text.trim text)⟩ := by
  rcases read_cases (Text.trim text) with ⟨reads, _⟩ | ⟨operator, left, right, _, cuts, _⟩
  · have trimmed : Text.trim (Text.trim text) = Text.trim text :=
      Text.trimBy_of_cleanEnds (Text.cleanEnds_trim text)
    rw [reads, trimmed]
  · obtain ⟨before, after, whole⟩ := cuts.of_trim
    exact absurd whole (free operator before after)

/-- A comparison reads back if nothing earlier cuts its text. -/
theorem reread_ofSides (cuts : Cuts operator text left right) (first : NoneBefore operator text)
    (plain : ¬ (ofSides operator left right).Confusable) :
    (ofSides operator left right).reread = ofSides operator left right := by
  have none : NoneBefore operator (ofSides operator left right).written := by
    intro earlier start rest precedes again
    rcases cuts.of_written precedes again with confusable | ⟨before, after, whole⟩
    · exact plain confusable
    · exact first earlier before after precedes whole
  rw [reread, read_of_first cuts.written none, ofSides_trim]

/-- A filter that was read reads back from its own text exactly if it is not confusable. -/
theorem reread_beq_iff (text : List Char) :
    ((read text).reread == read text) = true ↔ ¬ (read text).Confusable := by
  rcases read_cases text with ⟨reads, free⟩ | ⟨operator, left, right, reads, cuts, first⟩
  · rw [reads]
    refine iff_of_true ?_ (fun confusable => by cases confusable)
    rw [reread, written, String.toList_ofList, read_trim_of_free free]
    exact beq_self_eq_true (Path.mk (String.ofList (Text.trim text)))
  · rw [reads]
    constructor
    · intro same confusable
      obtain ⟨earlier, start, rest, precedes, again⟩ := confusable.cuts cuts
      obtain ⟨value, reread, _⟩ := exists_of_beq_comparison same
      exact operator_ne_of_cuts again precedes reread
    · intro plain
      rw [reread_ofSides cuts first plain]
      have values := Literal.beq_self (Literal.isFinite_read (Text.trim right))
      exact Bool.and_eq_true_iff.mpr ⟨beq_self_eq_true operator,
        Bool.and_eq_true_iff.mpr ⟨beq_self_eq_true _, values⟩⟩

end Filter

end JsonQuery
