import JsonQuery.Proofs.Query.Lexemes
import JsonQuery.Proofs.Query.Printing
import JsonQuery.Proofs.Query.Soundness

/-! What an expression is made of when it is read from a text: its names are names, and its
filters are read from texts that never close more brackets than they opened. -/

namespace JsonQuery

def Token.name? : Token → Option String
  | property name => some name
  | _ => none

section Derivations

variable {α : Type} {ofSegment : Segment → Option α} {ofToken : Token → Option α}
variable {tokens : List Token} {chain : Chain} {segment : Segment}

theorem getLast?_toList_sublist (list : List α) : list.getLast?.toList.Sublist list := by
  cases last : list.getLast? with
  | none => exact List.nil_sublist list
  | some value => exact List.singleton_sublist.mpr (List.mem_of_getLast? last)

theorem SegmentRun.filter_sublist (run : SegmentRun tokens segment) :
    segment.filter?.toList.Sublist (tokens.filterMap Token.filter?) := by
  cases run with
  | property | wildcard | deepWildcard => exact getLast?_toList_sublist _

theorem SegmentRun.name_sublist (run : SegmentRun tokens segment) :
    segment.name?.toList.Sublist (tokens.filterMap Token.name?) := by
  cases run with
  | property => exact List.singleton_sublist.mpr List.mem_cons_self
  | wildcard | deepWildcard => exact List.nil_sublist _

theorem ChainRun.sublist (run : ChainRun tokens chain)
    (single : ∀ {tokens segment}, SegmentRun tokens segment →
      (ofSegment segment).toList.Sublist (tokens.filterMap ofToken)) :
    (chain.filterMap ofSegment).Sublist (tokens.filterMap ofToken) := by
  induction run with
  | dots => exact List.nil_sublist _
  | @segment before after chain segment first last ih =>
    have one : [segment].filterMap ofSegment = (ofSegment segment).toList := by
      rw [List.filterMap_eq_flatMap_toList, List.flatMap_singleton]
    rw [List.filterMap_append, List.filterMap_append, one]
    exact ih.append (single last)

/-- What the segments of a derived expression hold stands in its tokens, in the same order. -/
theorem Derives.sublist {phrase : Phrase} {expression : Expression} {depth : Nat}
    (derives : Derives phrase tokens expression depth)
    (single : ∀ {tokens segment}, SegmentRun tokens segment →
      (ofSegment segment).toList.Sublist (tokens.filterMap ofToken)) :
    (expression.segments.filterMap ofSegment).Sublist (tokens.filterMap ofToken) := by
  induction derives with
  | chain run => exact run.sublist single
  | negation inner ih =>
    exact ih.trans ((List.sublist_cons_self _ _).filterMap ofToken)
  | @group tokens expression depth inner ih =>
    have inside : tokens.Sublist (.opening :: (tokens ++ [.closing])) :=
      (List.sublist_append_left tokens _).cons _
    exact ih.trans (inside.filterMap ofToken)
  | single only ih | conjunction only ih => exact ih
  | both first second firstIh secondIh | either first second firstIh secondIh =>
    rw [Expression.segments, List.filterMap_append, List.filterMap_append]
    exact firstIh.append (secondIh.trans ((List.sublist_cons_self _ _).filterMap ofToken))

end Derivations

namespace Expression

variable {tokens : List Token} {expression : Expression}

theorem filters_sublist_of_ofTokens (parsed : ofTokens tokens = .ok expression) :
    expression.filters.Sublist (tokens.filterMap Token.filter?) := by
  obtain ⟨depth, derives, _⟩ := ofTokens_sound parsed
  exact derives.sublist SegmentRun.filter_sublist

theorem names_sublist_of_ofTokens (parsed : ofTokens tokens = .ok expression) :
    expression.names.Sublist (tokens.filterMap Token.name?) := by
  obtain ⟨depth, derives, _⟩ := ofTokens_sound parsed
  exact derives.sublist SegmentRun.name_sublist

end Expression

namespace Token

variable {text behind content : List Char} {token : Token}

theorem Encloses.exists_nesting? (encloses : Encloses content text behind) :
    ∃ left, Text.nesting? 0 content = some left := by
  cases encloses with
  | closed balanced => exact ⟨0, balanced⟩
  | unclosed nested => exact ⟨_, nested⟩

theorem Lexeme.enclosed_or_plain (found : Lexeme text token behind) :
    (∃ content, Encloses content text behind ∧ token = ofBracket content) ∨
      (∀ char ∈ text, Text.isBracket char = false) ∧ token.filter? = none := by
  cases found with
  | sign listed =>
    refine .inr ?_
    simp only [signs, List.mem_cons, Prod.mk.injEq, List.not_mem_nil, or_false] at listed
    rcases listed with ⟨rfl, rfl⟩ | ⟨rfl, rfl⟩ | ⟨rfl, rfl⟩ | ⟨rfl, rfl⟩ | ⟨rfl, rfl⟩ | ⟨rfl, rfl⟩ <;>
      exact ⟨List.forall_mem_singleton.mpr rfl, rfl⟩
  | wildcard => exact .inr ⟨List.forall_mem_singleton.mpr rfl, rfl⟩
  | deepWildcard =>
    exact .inr ⟨List.forall_mem_cons.mpr ⟨rfl, List.forall_mem_singleton.mpr rfl⟩, rfl⟩
  | property named => exact .inr ⟨outside_of_isName named, rfl⟩
  | slice encloses reads => exact .inl ⟨_, encloses, by rw [ofBracket, reads]⟩
  | filter encloses noSlice => exact .inl ⟨_, encloses, by rw [ofBracket, noSlice]⟩

/-- A property has a name, and a filter never closes more brackets than it opened. -/
structure Scanned (token : Token) : Prop where
  named : ∀ name ∈ token.name?, isName name.toList = true
  nested : ∀ text, token = .filter text → ∃ left, Text.nesting? 0 text.toList = some left

theorem Lexeme.scanned (found : Lexeme text token behind) : token.Scanned := by
  constructor
  · intro name held
    cases found with
    | property named =>
      obtain rfl := Option.some.inj held
      rwa [String.toList_ofList]
    | sign listed =>
      cases token with
      | property => simp [signs] at listed
      | _ => cases held
    | wildcard | deepWildcard | slice | filter => cases held
  · rintro content rfl
    cases found with
    | sign listed => simp [signs] at listed
    | filter encloses =>
      rw [String.toList_ofList]
      exact encloses.exists_nesting?

theorem scanned_of_mem_scan (member : token ∈ scan text) : token.Scanned := by
  rw [← filterMap_pieces] at member
  obtain ⟨_, _, found⟩ := (cut_pieces text).exists_lexeme token member
  exact found.scanned

end Token

/-- What holds of every expression that was read from a text. -/
structure Expression.FromText (expression : Expression) : Prop where
  fits : expression.height ≤ maxNesting
  named : ∀ name ∈ expression.names, Token.isName name.toList = true
  read : ∀ filter ∈ expression.filters, ∃ content left,
    filter = Filter.read content ∧ Text.nesting? 0 content = some left

theorem Expression.fromText_of_read {text : String} {expression : Expression}
    (parsed : Expression.read text = .ok expression) : expression.FromText := by
  have names := (names_sublist_of_ofTokens parsed).subset
  have filters := (filters_sublist_of_ofTokens parsed).subset
  obtain ⟨_, _, _, fits⟩ := ofTokens_sound parsed
  refine ⟨fits, fun name member => ?_, fun filter member => ?_⟩
  · obtain ⟨token, scanned, held⟩ := List.mem_filterMap.mp (names member)
    exact (Token.scanned_of_mem_scan scanned).named name held
  · obtain ⟨token, scanned, held⟩ := List.mem_filterMap.mp (filters member)
    cases token with
    | filter content =>
      obtain ⟨left, nested⟩ := (Token.scanned_of_mem_scan scanned).nested content rfl
      exact ⟨content.toList, left, (Option.some.inj held).symm, nested⟩
    | _ => cases held

end JsonQuery
