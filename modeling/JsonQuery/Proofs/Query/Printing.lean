import JsonQuery.Proofs.Query.Grammar
import JsonQuery.Proofs.Query.Scanning
import JsonQuery.Proofs.Query.SliceText
import Mathlib.Data.List.Basic

/-! The tokens that an expression is written as: its text scans to them and to nothing
else, provided that names are names and the filters close their brackets. -/

namespace JsonQuery

namespace Segment

def name? : Segment → Option String
  | property name _ _ => some name
  | _ => none

/-- The token of a filter between brackets, if there is one. -/
def filterTokens (filter : Option Filter) : List Token :=
  filter.toList.map fun filter => Token.ofBracket filter.written

def tokens : Segment → List Token
  | property name filter slice =>
    .property name :: (filterTokens filter ++ slice.toList.map Token.slice)
  | wildcard filter => .wildcard :: filterTokens filter
  | deepWildcard filter => .deepWildcard :: filterTokens filter

/-- The name is one, and the text of the filter closes its brackets. -/
structure Readable (segment : Segment) : Prop where
  named : ∀ name ∈ segment.name?, Token.isName name.toList = true
  closed : ∀ filter ∈ segment.filter?, Text.Balanced filter.written

end Segment

def Chain.tokens (chain : Chain) : List Token :=
  [Token.dot].intercalate (chain.map Segment.tokens)

namespace Expression

def segments : Expression → List Segment
  | chain segments => segments
  | negation operand => operand.segments
  | joined _ left right => left.segments ++ right.segments

def names (expression : Expression) : List String :=
  expression.segments.filterMap Segment.name?

def filters (expression : Expression) : List Filter :=
  expression.segments.filterMap Segment.filter?

theorem names_joined (connective : Connective) (left right : Expression) :
    (joined connective left right).names = left.names ++ right.names :=
  List.filterMap_append

theorem filters_joined (connective : Connective) (left right : Expression) :
    (joined connective left right).filters = left.filters ++ right.filters :=
  List.filterMap_append

def tokens : Expression → List Token
  | chain segments => Chain.tokens segments
  | negation operand => .negation :: operand.tokens
  | joined connective left right =>
    .opening :: (left.tokens ++ connective.token :: (right.tokens ++ [.closing]))

end Expression

namespace Token

theorem separates_cons {char : Char} (part : isNamePart char = false) (star : char ≠ '*')
    (rest : List Char) : Separates (char :: rest) := by
  intro first head
  obtain rfl := Option.some.inj head
  exact ⟨part, star⟩

theorem Separates.bracketed (content rest : List Char) :
    Separates (Segment.bracketed content ++ rest) :=
  separates_cons rfl (by decide) _

end Token

namespace Segment

open Token

theorem scan_filterText {held : Option Filter}
    (closed : ∀ filter ∈ held, Text.Balanced (Filter.written filter)) (rest : List Char) :
    scan (filterText held ++ rest) = filterTokens held ++ scan rest := by
  cases held with
  | none => rfl
  | some filter =>
    have taken := scan_bracket (closed filter rfl) rest
    change scan ('[' :: (filter.written ++ [']']) ++ rest) = _
    rw [List.cons_append, List.append_assoc]
    exact taken

theorem scan_sliceText (slice : Option Slice) (rest : List Char) :
    scan (sliceText slice ++ rest) = slice.toList.map Token.slice ++ scan rest := by
  cases slice with
  | none => rfl
  | some slice =>
    have taken := scan_bracket slice.balanced_written rest
    rw [ofBracket_written] at taken
    change scan ('[' :: (slice.written ++ [']']) ++ rest) = _
    rw [List.cons_append, List.append_assoc]
    exact taken

private theorem separates_filterText {held : Option Filter} {rest : List Char}
    (ends : Separates rest) : Separates (filterText held ++ rest) := by
  cases held with
  | none => exact ends
  | some filter => exact .bracketed filter.written rest

private theorem separates_sliceText {slice : Option Slice} {rest : List Char}
    (ends : Separates rest) : Separates (sliceText slice ++ rest) := by
  cases slice with
  | none => exact ends
  | some slice => exact .bracketed slice.written rest

theorem scan_written {segment : Segment} (readable : segment.Readable) {rest : List Char}
    (ends : Separates rest) : scan (segment.written ++ rest) = segment.tokens ++ scan rest := by
  cases segment with
  | property name filter slice =>
    have named := readable.named name rfl
    have filtered (rest : List Char) : scan (filterText filter ++ rest) =
        filterTokens filter ++ scan rest := scan_filterText readable.closed rest
    have sliceEnds : Separates (sliceText slice ++ rest) := separates_sliceText ends
    simp only [written, tokens, List.append_assoc, List.cons_append]
    rw [scan_name named (separates_filterText sliceEnds), String.ofList_toList,
      filtered, scan_sliceText]
  | wildcard filter =>
    have filtered : scan (filterText filter ++ rest) = filterTokens filter ++ scan rest :=
      scan_filterText readable.closed rest
    rw [written, tokens, List.cons_append, scan_wildcard (separates_filterText ends),
      filtered]
    rfl
  | deepWildcard filter =>
    have filtered : scan (filterText filter ++ rest) = filterTokens filter ++ scan rest :=
      scan_filterText readable.closed rest
    rw [written, tokens, List.cons_append, List.cons_append, scan_deepWildcard, filtered]
    rfl

end Segment

namespace Chain

theorem written_singleton (segment : Segment) : Chain.written [segment] = segment.written :=
  List.intercalate_singleton

theorem tokens_singleton (segment : Segment) : Chain.tokens [segment] = segment.tokens :=
  List.intercalate_singleton

theorem written_cons_cons (segment next : Segment) (others : Chain) :
    Chain.written (segment :: next :: others) =
      segment.written ++ '.' :: Chain.written (next :: others) := by
  simp [written, List.intercalate_cons_cons]

theorem tokens_cons_cons (segment next : Segment) (others : Chain) :
    Chain.tokens (segment :: next :: others) =
      segment.tokens ++ .dot :: Chain.tokens (next :: others) := by
  simp [tokens, List.intercalate_cons_cons]

theorem scan_written {chain : Chain} (readable : ∀ segment ∈ chain, segment.Readable)
    {rest : List Char} (ends : Token.Separates rest) :
    Token.scan (chain.written ++ rest) = chain.tokens ++ Token.scan rest := by
  induction chain with
  | nil => rfl
  | cons segment others ih =>
    obtain ⟨first, later⟩ := List.forall_mem_cons.mp readable
    cases others with
    | nil =>
      rw [written_singleton, tokens_singleton]
      exact segment.scan_written first ends
    | cons next others =>
      have dotted : Token.Separates ('.' :: (Chain.written (next :: others) ++ rest)) :=
        Token.separates_cons rfl (by decide) _
      have taken := segment.scan_written first dotted
      rw [written_cons_cons, tokens_cons_cons, List.append_assoc, List.cons_append, taken,
        Token.scan_punctuation rfl, ih later, List.append_assoc, List.cons_append]

end Chain

theorem Expression.scan_written {expression : Expression}
    (readable : ∀ segment ∈ expression.segments, segment.Readable) {rest : List Char}
    (ends : Token.Separates rest) :
    Token.scan (expression.written ++ rest) = expression.tokens ++ Token.scan rest := by
  induction expression generalizing rest with
  | chain segments => exact Chain.scan_written readable ends
  | negation operand ih =>
    rw [written, List.cons_append, Token.scan_punctuation rfl, ih readable ends]
    rfl
  | joined connective left right leftIh rightIh =>
    obtain ⟨leftReadable, rightReadable⟩ := List.forall_mem_append.mp readable
    have closing : Token.Separates (')' :: rest) := Token.separates_cons rfl (by decide) _
    have sign : Token.Separates (connective.sign :: (right.written ++ ')' :: rest)) := by
      cases connective <;> exact Token.separates_cons rfl (by decide) _
    have signed (text : List Char) :
        Token.scan (connective.sign :: text) = connective.token :: Token.scan text := by
      cases connective <;> exact Token.scan_punctuation rfl text
    simp only [written, tokens, List.cons_append, List.append_assoc, List.nil_append]
    rw [Token.scan_punctuation rfl, leftIh leftReadable sign, signed,
      rightIh rightReadable closing, Token.scan_punctuation rfl]

end JsonQuery
