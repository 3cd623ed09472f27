import JsonQuery.Query.Path
import JsonQuery.Proofs.Text.Split

/-! Where paths lead. Steps from a value down to a descendant are joined by points to a path that
leads to this descendant, paths behind one another lead on from where the first one ends, and a path
leads down one level more than it has points. -/

namespace JsonQuery

namespace Path

theorem keys_append (left right : String) :
    (Path.mk (left ++ "." ++ right)).keys = (Path.mk left).keys ++ (Path.mk right).keys := by
  have text : (left ++ "." ++ right).toList = left.toList ++ '.' :: right.toList := by simp
  simp only [keys, text, Text.split_append_separator, List.map_append]

theorem keys_intercalate {keys : List String} (undotted : ∀ key ∈ keys, '.' ∉ key.toList)
    (nonempty : keys ≠ []) : (Path.mk (".".intercalate keys)).keys = keys := by
  have text : (".".intercalate keys).toList = ['.'].intercalate (keys.map String.toList) := by
    simp [String.toList_intercalate]
  have parts : ∀ part ∈ keys.map String.toList, '.' ∉ part := by
    simpa using undotted
  rw [Path.keys, text, Text.split_eq_splitOn, List.splitOn_intercalate '.' parts (by simpa)]
  simp [Function.comp_def]

theorem length_keys (path : Path) : path.keys.length = path.text.toList.count '.' + 1 := by
  rw [keys, List.length_map, Text.length_split]

end Path

namespace Json

theorem follow?_cons (value : Json) (key : String) (rest : List String) :
    value.follow? (key :: rest) = (value.keyIndex? key).bind fun index =>
      (value.children[index]?).bind fun child =>
        (child.follow? rest).map fun (position, found) => (index :: position, found) := by
  rw [follow?]
  simp only [Option.bind_eq_bind, Option.pure_def, Option.map_eq_bind, Function.comp_def]

theorem follow?_append (value : Json) (front back : List String) :
    value.follow? (front ++ back) = (value.follow? front).bind fun (position, found) =>
      (found.follow? back).map fun (rest, last) => (position ++ rest, last) := by
  induction front generalizing value with
  | nil => simp [follow?]
  | cons key front ih =>
    rw [List.cons_append, follow?_cons, follow?_cons]
    cases value.keyIndex? key with
    | none => rfl
    | some index =>
      cases child : value.children[index]? with
      | none => simp [child]
      | some child => simp [child, ih, Option.map_bind, Option.bind_map, Function.comp_def]

/-- What keys lead to lies at the position that they tell, one level down for each key. -/
theorem at?_of_follow? {value found : Json} {keys : List String} {position : Position}
    (follows : value.follow? keys = some (position, found)) :
    value.at? position = some found ∧ position.length = keys.length := by
  induction keys generalizing value position with
  | nil =>
    rw [follow?] at follows
    cases follows
    exact ⟨by rw [at?], rfl⟩
  | cons key rest ih =>
    rw [follow?_cons] at follows
    obtain ⟨index, _, follows⟩ := Option.bind_eq_some_iff.mp follows
    obtain ⟨child, step, follows⟩ := Option.bind_eq_some_iff.mp follows
    obtain ⟨⟨below, last⟩, follows, same⟩ := Option.map_eq_some_iff.mp follows
    cases same
    obtain ⟨reached, length⟩ := ih follows
    exact ⟨by rw [at?, step, Option.bind_some, reached], by simp [length]⟩

/-- A key leads one level down: an index in decimal digits to an element of an array, and the name
of a member, which is without points, to its value. Where names are repeated it is the first member
of the name. -/
inductive Step : Json → String → Nat → Json → Prop where
  | element {items : List Json} {key : String} {index : Nat} {item : Json} (nonempty : key ≠ "")
      (digits : ∀ char ∈ key.toList, char.isDigit = true)
      (number : Nat.ofDigitChars 10 key.toList 0 = index) (found : items[index]? = some item) :
      Step (array items) key index item
  | member {before after : List (String × Json)} {key : String} {value : Json}
      (undotted : '.' ∉ key.toList) (first : ∀ member ∈ before, member.1 ≠ key) :
      Step (object (before ++ (key, value) :: after)) key before.length value

/-- Steps lead from a value down to a descendant at a position. -/
inductive Leads : Json → List String → Position → Json → Prop where
  | here (value : Json) : Leads value [] [] value
  | step {value child found : Json} {key : String} {keys : List String} {index : Nat}
      {position : Position} (first : Step value key index child)
      (rest : Leads child keys position found) : Leads value (key :: keys) (index :: position) found

variable {value child found : Json} {key : String} {keys : List String} {index : Nat}
  {position : Position}

theorem readIndex?_of_digits {text : List Char} (nonempty : text ≠ [])
    (digits : ∀ char ∈ text, char.isDigit = true) :
    keyIndex?.readIndex? text = some (Nat.ofDigitChars 10 text 0) := by
  obtain ⟨first, rest, rfl⟩ := List.exists_cons_of_ne_nil nonempty
  have unsigned : first ≠ '+' := by
    rintro rfl
    exact absurd (digits '+' List.mem_cons_self) (by decide)
  have all : (first :: rest).all Char.isDigit = true := List.all_eq_true.mpr digits
  simp [keyIndex?.readIndex?, unsigned, all]

theorem Step.undotted (step : Step value key index child) : '.' ∉ key.toList := by
  cases step with
  | element nonempty digits number found => exact fun point => absurd (digits '.' point) (by decide)
  | member undotted first => exact undotted

theorem Step.keyIndex? (step : Step value key index child) :
    value.keyIndex? key = some index ∧ value.children[index]? = some child := by
  cases step with
  | element nonempty digits number found =>
    rw [← number] at found ⊢
    exact ⟨readIndex?_of_digits (by simpa using nonempty) digits, found⟩
  | @member before after _ _ undotted first =>
    have absent : before.findIdx? (·.1 == key) = none := by
      simpa using first
    simp [Json.keyIndex?, memberIndex?, children, List.findIdx?_append, List.findIdx?_cons, absent]

theorem Leads.undotted (leads : Leads value keys position found) :
    ∀ key ∈ keys, '.' ∉ key.toList := by
  induction leads with
  | here value => exact List.forall_mem_nil _
  | step first rest ih => exact List.forall_mem_cons.mpr ⟨first.undotted, ih⟩

theorem Leads.follow? (leads : Leads value keys position found) :
    value.follow? keys = some (position, found) := by
  induction leads with
  | here value => rw [Json.follow?]
  | step first rest ih =>
    obtain ⟨index, child⟩ := first.keyIndex?
    rw [follow?_cons, index, Option.bind_some, child, Option.bind_some, ih, Option.map_some]

end Json

namespace Path

/-- Steps joined by points lead to the descendant that the steps lead to. A path behind another one
and a point leads to what it leads to from where that one ends, and nowhere if that one does.
Whatever a path leads to is a descendant, one level further down than the path has points. -/
theorem leads_down :
    (∀ (value found : Json) (keys : List String) (position : Position), keys ≠ [] →
      value.Leads keys position found →
        (Path.mk (".".intercalate keys)).locate? value = some (position, found)) ∧
      (∀ (left right : String) (value : Json), (Path.mk (left ++ "." ++ right)).locate? value =
        ((Path.mk left).locate? value).bind fun (position, found) =>
          ((Path.mk right).locate? found).map fun (rest, last) => (position ++ rest, last)) ∧
      ∀ (path : Path) (value found : Json) (position : Position),
        path.locate? value = some (position, found) →
          value.at? position = some found ∧ position.length = path.text.toList.count '.' + 1 := by
  refine ⟨fun value found keys position nonempty leads => ?_, fun left right value => ?_,
    fun path value found position located => ?_⟩
  · rw [locate?, keys_intercalate leads.undotted nonempty, leads.follow?]
  · rw [locate?, keys_append, Json.follow?_append]
    rfl
  · obtain ⟨reached, length⟩ := Json.at?_of_follow? located
    exact ⟨reached, length.trans path.length_keys⟩

/-- An empty name, an index with a zero in front and a name of a digit. -/
theorem leads_down_digits :
    (Json.object [("", .array [.null, .object [("1", .bool true)]])]).Leads ["", "01", "1"]
        [0, 1, 0] (.bool true) ∧
      (Path.mk ".01.1").locate? (.object [("", .array [.null, .object [("1", .bool true)]])]) =
        some ([0, 1, 0], .bool true) ∧
      (Json.object [("", .array [.null, .object [("1", .bool true)]])]).at? [0, 1, 0] =
        some (.bool true) := by
  have leads : (Json.object [("", .array [.null, .object [("1", .bool true)]])]).Leads
      ["", "01", "1"] [0, 1, 0] (.bool true) := by
    refine .step (@Json.Step.member [] [] "" _ (by decide) (List.forall_mem_nil _)) ?_
    refine .step (.element (by decide) (by simp) rfl rfl) ?_
    refine .step (@Json.Step.member [] [] "1" _ (by decide) (List.forall_mem_nil _)) ?_
    exact .here _
  obtain ⟨joined, _, down⟩ := leads_down
  have located := joined _ _ _ _ (by decide) leads
  exact ⟨leads, located, (down _ _ _ _ located).1⟩

end Path

end JsonQuery
