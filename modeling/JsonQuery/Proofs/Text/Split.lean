import JsonQuery.Text.Split

/-! Where a text is cut. A separator whose first character does not come again in it cannot
overlap itself, so that its occurrences are cut one by one from the left. -/

namespace JsonQuery.Text

variable {first : Char} {more text before after : List Char}

theorem consPart_ne_nil (char : Char) (parts : List (List Char)) : consPart char parts ≠ [] := by
  cases parts <;> exact List.cons_ne_nil _ _

theorem split_ne_nil (first : Char) (more text : List Char) : split first more text ≠ [] := by
  fun_cases split first more text with
  | case1 | case2 => exact List.cons_ne_nil _ _
  | case3 => exact consPart_ne_nil _ _

private theorem prefix_of_prefix_append (fresh : first ∉ more)
    (starts : more <+: before ++ first :: after) : more <+: before := by
  induction before generalizing more with
  | nil =>
    cases more with
    | nil => exact List.nil_prefix
    | cons char rest =>
      obtain ⟨rfl, _⟩ := List.cons_prefix_cons.mp starts
      exact absurd List.mem_cons_self fresh
  | cons next before ih =>
    cases more with
    | nil => exact List.nil_prefix
    | cons char rest =>
      obtain ⟨rfl, follows⟩ := List.cons_prefix_cons.mp starts
      have inside := ih (fun member => fresh (List.mem_cons_of_mem _ member)) follows
      exact List.cons_prefix_cons.mpr ⟨rfl, inside⟩

private theorem separator_prefix_iff (char : Char) (rest : List Char) :
    (first :: more) <+: char :: rest ↔ char = first ∧ more.isPrefixOf rest = true := by
  rw [List.cons_prefix_cons, List.isPrefixOf_iff_prefix, eq_comm]

theorem split_of_not_infix (absent : ¬ (first :: more) <:+: text) :
    split first more text = [text] := by
  induction text with
  | nil => rw [split]
  | cons char rest ih =>
    rw [List.infix_cons_iff, not_or, separator_prefix_iff] at absent
    rw [split, if_neg absent.1, ih absent.2]
    rfl

theorem split_append (fresh : first ∉ more) (absent : ¬ (first :: more) <:+: before)
    (after : List Char) :
    split first more (before ++ first :: (more ++ after)) = before :: split first more after := by
  induction before with
  | nil =>
    have here : first = first ∧ more.isPrefixOf (more ++ after) = true :=
      ⟨rfl, List.isPrefixOf_iff_prefix.mpr (List.prefix_append more after)⟩
    rw [List.nil_append, split, if_pos here, List.drop_left]
  | cons char rest ih =>
    rw [List.infix_cons_iff, not_or, separator_prefix_iff] at absent
    rw [List.cons_append, split, if_neg, ih absent.2]
    · rfl
    · rintro ⟨rfl, starts⟩
      have inside := prefix_of_prefix_append fresh (List.isPrefixOf_iff_prefix.mp starts)
      exact absent.1 ⟨rfl, List.isPrefixOf_iff_prefix.mpr inside⟩

theorem split_eq_cons (fresh : first ∉ more) {parts : List (List Char)}
    (cut : split first more text = before :: parts) :
    ¬ (first :: more) <:+: before ∧
      (text = before ∧ parts = [] ∨
        ∃ after, text = before ++ first :: (more ++ after) ∧ parts = split first more after) := by
  induction text generalizing before with
  | nil =>
    rw [split] at cut
    obtain ⟨rfl, rfl⟩ := List.cons.inj cut
    exact ⟨fun inside => absurd (List.eq_nil_of_infix_nil inside) (List.cons_ne_nil _ _),
      .inl ⟨rfl, rfl⟩⟩
  | cons char rest ih =>
    rw [split] at cut
    by_cases here : char = first ∧ more.isPrefixOf rest = true
    · rw [if_pos here] at cut
      obtain ⟨rfl, rfl⟩ := List.cons.inj cut
      obtain ⟨rfl, starts⟩ := here
      obtain ⟨after, rfl⟩ := List.isPrefixOf_iff_prefix.mp starts
      refine ⟨fun inside => absurd (List.eq_nil_of_infix_nil inside) (List.cons_ne_nil _ _),
        .inr ⟨after, rfl, ?_⟩⟩
      rw [List.drop_left]
    · rw [if_neg here] at cut
      cases whole : split first more rest with
      | nil => exact absurd whole (split_ne_nil first more rest)
      | cons part others =>
        rw [whole] at cut
        obtain ⟨rfl, rfl⟩ := List.cons.inj cut
        obtain ⟨absent, rebuilt⟩ := ih whole
        constructor
        · rw [List.infix_cons_iff, not_or, separator_prefix_iff]
          refine ⟨?_, absent⟩
          rintro ⟨rfl, starts⟩
          have longer : part <+: rest := by
            rcases rebuilt with ⟨rfl, _⟩ | ⟨after, rfl, _⟩
            · exact List.prefix_refl rest
            · exact List.prefix_append part _
          have reaches := (List.isPrefixOf_iff_prefix.mp starts).trans longer
          exact here ⟨rfl, List.isPrefixOf_iff_prefix.mpr reaches⟩
        · rcases rebuilt with ⟨rfl, last⟩ | ⟨after, rfl, later⟩
          · exact .inl ⟨rfl, last⟩
          · exact .inr ⟨after, rfl, later⟩

theorem split_eq_singleton_iff (fresh : first ∉ more) :
    split first more text = [before] ↔ text = before ∧ ¬ (first :: more) <:+: before := by
  constructor
  · intro cut
    obtain ⟨absent, ⟨rfl, _⟩ | ⟨after, _, last⟩⟩ := split_eq_cons fresh cut
    · exact ⟨rfl, absent⟩
    · exact absurd last.symm (split_ne_nil first more after)
  · rintro ⟨rfl, absent⟩
    exact split_of_not_infix absent

/-- A text has two parts exactly if the separator occurs between them and nowhere else. -/
theorem split_eq_pair_iff (fresh : first ∉ more) :
    split first more text = [before, after] ↔
      text = before ++ first :: (more ++ after) ∧ ¬ (first :: more) <:+: before ∧
        ¬ (first :: more) <:+: after := by
  constructor
  · intro cut
    obtain ⟨absent, ⟨_, last⟩ | ⟨rest, rfl, later⟩⟩ := split_eq_cons fresh cut
    · cases last
    · obtain ⟨rfl, absentAfter⟩ := (split_eq_singleton_iff fresh).mp later.symm
      exact ⟨rfl, absent, absentAfter⟩
  · rintro ⟨rfl, absent, absentAfter⟩
    rw [split_append fresh absent, split_of_not_infix absentAfter]

/-- At a single character a text is cut as lists are. -/
theorem split_eq_splitOn (separator : Char) (text : List Char) :
    split separator [] text = text.splitOn separator := by
  induction text with
  | nil =>
    rw [split]
    rfl
  | cons char rest ih =>
    obtain ⟨part, parts, shape⟩ := List.exists_cons_of_ne_nil (split_ne_nil separator [] rest)
    rw [split, List.splitOn, List.splitOnP_cons_eq_if_modifyHead, ← List.splitOn, ← ih, shape]
    by_cases here : char = separator
    · simp [here, shape]
    · simp [here, consPart]

theorem split_append_separator (separator : Char) (left right : List Char) :
    split separator [] (left ++ separator :: right) =
      split separator [] left ++ split separator [] right := by
  simp only [split_eq_splitOn, List.splitOn_append_cons_self]

theorem length_split (separator : Char) (text : List Char) :
    (split separator [] text).length = text.count separator + 1 := by
  induction text with
  | nil => simp [split]
  | cons char rest ih =>
    obtain ⟨part, parts, shape⟩ := List.exists_cons_of_ne_nil (split_ne_nil separator [] rest)
    rw [shape, List.length_cons] at ih
    rw [split, List.count_cons, shape]
    by_cases here : char = separator
    · simp [here, shape, ih]
    · simp [here, consPart, ih]

end JsonQuery.Text
