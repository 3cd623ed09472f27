import JsonQuery.Proofs.Query.Contents
import Mathlib

/-! Scanning is local. The pieces of a text that closes its brackets are pieces of every longer
text as well, and scanning goes on behind them as at the start of a text. Only the last piece can
grow, if it is a name or a single star and what follows goes on with it. -/

namespace JsonQuery

namespace Text

/-- The number of open brackets behind a character. A bracket that closes none is stray and
does not count. -/
def openBracket (unclosed : Nat) (char : Char) : Nat :=
  if char = '[' then unclosed + 1 else if char = ']' then unclosed - 1 else unclosed

/-- The number of brackets that a text leaves open. -/
def leftOpen (text : List Char) : Nat := text.foldl openBracket 0

/-- Both counts of brackets agree on a text without stray ones. -/
theorem foldl_openBracket_of_nesting? {unclosed left : Nat} {text : List Char}
    (nested : nesting? unclosed text = some left) : text.foldl openBracket unclosed = left := by
  induction text generalizing unclosed with
  | nil => exact Option.some.inj nested
  | cons char rest ih =>
    obtain ⟨next, counted, later⟩ := Option.bind_eq_some_iff.mp nested
    have same : openBracket unclosed char = next := by
      unfold countBracket? at counted
      unfold openBracket
      grind
    rw [List.foldl_cons, same, ih later]

theorem leftOpen_append_of_closed {text : List Char} (closed : leftOpen text = 0)
    (more : List Char) : leftOpen (text ++ more) = leftOpen more := by
  unfold leftOpen at closed ⊢
  rw [List.foldl_append, closed]

end Text

namespace Token

/-- The piece has a bracket that is never closed. -/
def Piece.Unclosed (piece : Piece) : Prop :=
  ∃ content token left, piece = .lexeme ('[' :: content) token ∧
    Text.nesting? 0 content = some left

/-- The piece is a name or a single star, and the text that follows goes on with it. -/
inductive Piece.RunsOn : Piece → List Char → Prop where
  | name {text more : List Char} {name : String} {char : Char} (part : isNamePart char = true) :
    RunsOn (.lexeme text (.property name)) (char :: more)
  | star {more : List Char} : RunsOn (.lexeme ['*'] .wildcard) ('*' :: more)

variable {text behind more content other : List Char} {token : Token} {found : List Piece}

theorem Encloses.append (encloses : Encloses content text behind)
    (closed : ¬ (Piece.lexeme text token).Unclosed) (more : List Char) :
    Encloses content text (behind ++ more) := by
  cases encloses with
  | closed balanced => exact .closed balanced _
  | unclosed nested => exact absurd ⟨_, _, _, rfl, nested⟩ closed

/-- A lexeme stays one in front of more text, unless it is last and the text goes on with it. -/
theorem Lexeme.append (found : Lexeme text token behind)
    (closed : ¬ (Piece.lexeme text token).Unclosed)
    (ends : behind = [] → ¬ (Piece.lexeme text token).RunsOn more) :
    Lexeme text token (behind ++ more) := by
  cases found with
  | sign listed => exact .sign listed
  | wildcard single =>
    refine .wildcard fun star => ?_
    cases behind with
    | nil =>
      obtain ⟨rest, rfl⟩ := List.head?_eq_some_iff.mp star
      exact ends rfl .star
    | cons first behind => exact single star
  | deepWildcard => exact .deepWildcard
  | property named stops =>
    refine .property named fun char head => ?_
    cases behind with
    | nil =>
      obtain ⟨rest, rfl⟩ := List.head?_eq_some_iff.mp head
      exact Bool.eq_false_iff.mpr fun part => ends rfl (.name part)
    | cons first behind => exact stops char head
  | slice encloses reads => exact .slice (encloses.append closed more) reads
  | filter encloses noSlice => exact .filter (encloses.append closed more) noSlice

/-- A text that is cut up stays so in front of more text, which is cut up for itself. -/
theorem Cut.append (cut : Cut text found) (closed : ∀ piece ∈ found, ¬ piece.Unclosed)
    (ends : ∀ last ∈ found.getLast?, ¬ last.RunsOn more) :
    Cut (text ++ more) (found ++ pieces more) := by
  induction cut with
  | nil => exact cut_pieces more
  | @lexeme text behind token others lexeme rest ih =>
    obtain ⟨first, later⟩ := List.forall_mem_cons.mp closed
    rw [List.append_assoc, List.cons_append]
    refine .lexeme (lexeme.append first fun none => ?_) (ih later fun last held => ?_)
    · subst none
      obtain rfl := rest.eq_nil
      exact ends _ rfl
    · exact ends last (List.mem_getLast?_cons held)
  | @dropped char behind others drops rest ih =>
    obtain ⟨_, later⟩ := List.forall_mem_cons.mp closed
    rw [List.cons_append, List.cons_append]
    exact .dropped drops (ih later fun last held => ends last (List.mem_getLast?_cons held))

theorem pieces_append (closed : ∀ piece ∈ pieces text, ¬ piece.Unclosed)
    (ends : ∀ last ∈ (pieces text).getLast?, ¬ last.RunsOn more) :
    pieces (text ++ more) = pieces text ++ pieces more :=
  ((cut_pieces text).append closed ends).eq_pieces.symm

theorem scan_append_of_closed (closed : ∀ piece ∈ pieces text, ¬ piece.Unclosed)
    (ends : ∀ last ∈ (pieces text).getLast?, ¬ last.RunsOn more) :
    scan (text ++ more) = scan text ++ scan more := by
  rw [← filterMap_pieces, pieces_append closed ends, List.filterMap_append, filterMap_pieces,
    filterMap_pieces]

theorem Encloses.of_head? (encloses : Encloses content text behind)
    (same : other.head? = behind.head?) : Encloses content text other := by
  cases encloses with
  | closed balanced => exact .closed balanced other
  | unclosed nested =>
    obtain rfl := List.head?_eq_none_iff.mp same
    exact .unclosed nested

/-- Whether a text is a lexeme depends on no more than the first character behind it. -/
theorem Lexeme.of_head? (found : Lexeme text token behind)
    (same : other.head? = behind.head?) : Lexeme text token other := by
  cases found with
  | sign listed => exact .sign listed
  | wildcard single => exact .wildcard (same ▸ single)
  | deepWildcard => exact .deepWildcard
  | property named ends => exact .property named (same ▸ ends)
  | slice encloses reads => exact .slice (encloses.of_head? same) reads
  | filter encloses noSlice => exact .filter (encloses.of_head? same) noSlice

/-- The end of a text that is cut up may be exchanged for one with the same first character. -/
theorem Cut.exchange {before after : List Piece} (cut : Cut text (before ++ after)) :
    ∃ front back, text = front ++ back ∧ Cut back after ∧
      ∀ {other others}, other.head? = back.head? → Cut other others →
        Cut (front ++ other) (before ++ others) := by
  induction before generalizing text with
  | nil => exact ⟨[], text, rfl, cut, fun _ cut => cut⟩
  | cons piece before ih =>
    cases cut with
    | @lexeme text behind token _ found rest =>
      obtain ⟨front, back, rfl, cutBack, exchanged⟩ := ih rest
      refine ⟨text ++ front, back, (List.append_assoc _ _ _).symm, cutBack, ?_⟩
      intro other others same cutOther
      rw [List.append_assoc]
      refine .lexeme (found.of_head? ?_) (exchanged same cutOther)
      rw [List.head?_append, List.head?_append, same]
    | dropped drops rest =>
      obtain ⟨front, back, rfl, cutBack, exchanged⟩ := ih rest
      exact ⟨_ :: front, back, rfl, cutBack, fun same cutOther =>
        .dropped drops (exchanged same cutOther)⟩

/-- A piece that goes on makes a longer lexeme with what follows it, that of another token. -/
theorem Piece.RunsOn.exists_longer (runs : (Piece.lexeme text token).RunsOn more)
    (found : Lexeme text token []) : ∃ longer other after, text ++ more = longer ++ after ∧
      Lexeme longer other after ∧ other ≠ token := by
  cases runs with
  | @name _ more name char part =>
    obtain ⟨named, rfl⟩ : isName text = true ∧ String.ofList text = name := by
      cases found with
      | sign listed => simp [signs] at listed
      | property named ends => exact ⟨named, rfl⟩
    refine ⟨text ++ (char :: more).takeWhile isNamePart, _, (char :: more).dropWhile isNamePart,
      ?_, .property ?_ ?_, ?_⟩
    · rw [List.append_assoc, List.takeWhile_append_dropWhile]
    · exact isName_append named fun char member => List.mem_takeWhile_imp member
    · exact Text.head?_dropWhile isNamePart _
    · intro same
      have longer := String.ofList_injective (Token.property.inj same)
      have none := List.append_right_eq_self.mp longer
      rw [List.takeWhile_cons_of_pos part] at none
      cases none
  | @star more => exact ⟨['*', '*'], _, more, rfl, .deepWildcard, by decide⟩

/-- Where the last piece goes on, the tokens of both texts are not those of the whole. -/
theorem Piece.RunsOn.scan_ne {last : Piece} (runs : last.RunsOn more)
    (ends : (pieces text).getLast? = some last) : scan (text ++ more) ≠ scan text ++ scan more := by
  obtain ⟨before, whole⟩ := List.getLast?_eq_some_iff.mp ends
  have cut := cut_pieces text
  rw [whole] at cut
  obtain ⟨front, back, rfl, cutBack, exchanged⟩ := cut.exchange
  cases cutBack with
  | dropped => cases runs
  | @lexeme lexeme behind token _ found rest =>
    cases rest
    obtain ⟨longer, other, after, extended, longerFound, different⟩ := runs.exists_longer found
    have same : (longer ++ after).head? = (lexeme ++ []).head? := by
      obtain ⟨char, others, rfl, _⟩ := found.next
      rw [← extended]
      rfl
    have again := (exchanged same (.lexeme longerFound (cut_pieces after))).eq_pieces
    intro both
    rw [← filterMap_pieces, ← filterMap_pieces, ← filterMap_pieces, whole, List.append_assoc,
      List.append_nil, extended, ← again, List.filterMap_append, List.filterMap_append,
      List.append_assoc] at both
    exact different (List.cons.inj (List.append_cancel_left both)).1

/-- Where no bracket is left open, the first lexeme leaves none open, nor does what follows it. -/
theorem Lexeme.closed_of_leftOpen (found : Lexeme text token behind)
    (closed : Text.leftOpen (text ++ behind) = 0) :
    ¬ (Piece.lexeme text token).Unclosed ∧ Text.leftOpen behind = 0 := by
  rcases found.enclosed_or_plain with ⟨content, encloses, rfl⟩ | ⟨plain, _⟩
  · cases encloses with
    | closed balanced =>
      have enclosed := Text.foldl_openBracket_of_nesting? (Text.nesting?_enclose balanced)
      rw [Text.leftOpen_append_of_closed enclosed] at closed
      refine ⟨?_, closed⟩
      rintro ⟨_, _, left, same, nested⟩
      obtain rfl := List.tail_eq_of_cons_eq (Piece.lexeme.inj same).1
      rw [Text.nesting?_append, balanced] at nested
      cases nested
    | @unclosed inside inner =>
      have deeper : Text.nesting? 0 ('[' :: content) = some (inside + 1) :=
        Text.nesting?_add 1 inner
      have left := Text.foldl_openBracket_of_nesting? deeper
      rw [List.append_nil, Text.leftOpen, left] at closed
      cases closed
  · have skipped := Text.foldl_openBracket_of_nesting? (Text.nesting?_of_plain 0 plain)
    rw [Text.leftOpen_append_of_closed skipped] at closed
    refine ⟨?_, closed⟩
    rintro ⟨_, _, _, same, _⟩
    obtain rfl := (Piece.lexeme.inj same).1
    exact absurd (plain '[' List.mem_cons_self) (by decide)

theorem Cut.closed_of_leftOpen (cut : Cut text found) (closed : Text.leftOpen text = 0) :
    ∀ piece ∈ found, ¬ piece.Unclosed := by
  induction cut with
  | nil => exact List.forall_mem_nil _
  | lexeme found rest ih =>
    obtain ⟨first, behind⟩ := found.closed_of_leftOpen closed
    exact List.forall_mem_cons.mpr ⟨first, ih behind⟩
  | @dropped char behind pieces drops rest ih =>
    have first : Text.openBracket 0 char = 0 := by
      simp [Text.openBracket, (drops_iff.mp drops).1]
    rw [Text.leftOpen, List.foldl_cons, first] at closed
    refine List.forall_mem_cons.mpr ⟨?_, ih closed⟩
    rintro ⟨_, _, _, same, _⟩
    cases same

theorem Separates.not_runsOn (ends : Separates more) (piece : Piece) : ¬ piece.RunsOn more := by
  intro runs
  cases runs with
  | name part =>
    rw [(ends _ rfl).1] at part
    cases part
  | star => exact (ends _ rfl).2 rfl

theorem scan_append (closed : Text.leftOpen text = 0) (ends : Separates more) :
    scan (text ++ more) = scan text ++ scan more :=
  scan_append_of_closed ((cut_pieces text).closed_of_leftOpen closed)
    fun last _ => ends.not_runsOn last

/-- Scanning is local. Where a text closes every bracket that it opens, what follows it is scanned
for itself, exactly if its last piece is no name or single star that goes on there. -/
theorem scan_append_iff (closed : ∀ piece ∈ pieces text, ¬ piece.Unclosed) (more : List Char) :
    scan (text ++ more) = scan text ++ scan more ↔
      ∀ last ∈ (pieces text).getLast?, ¬ last.RunsOn more := by
  constructor
  · intro both last ends runs
    exact runs.scan_ne ends both
  · exact scan_append_of_closed closed

/-- A closed bracket with one in it, a stray one and a star that ends the text: what follows is
scanned for itself if it starts with a digit, but not if it starts with a star. -/
theorem scan_append_iff_star :
    (∀ piece ∈ pieces "a[b[0]]]*".toList, ¬ piece.Unclosed) ∧
      scan ("a[b[0]]]*".toList ++ "1*".toList) =
        scan "a[b[0]]]*".toList ++ scan "1*".toList ∧
      scan ("a[b[0]]]*".toList ++ "*1".toList) ≠
        scan "a[b[0]]]*".toList ++ scan "*1".toList := by
  have cut : pieces "a[b[0]]]*".toList = [.lexeme "a".toList (.property "a"),
      .lexeme "[b[0]]".toList (.filter "b[0]"), .dropped ']', .lexeme "*".toList .wildcard] := by
    cbv
  have closed : ∀ piece ∈ pieces "a[b[0]]]*".toList, ¬ piece.Unclosed := by
    rw [cut]
    rintro piece member ⟨content, token, left, rfl, nested⟩
    have same : content = "b[0]]".toList ∧ token = .filter "b[0]" := by simpa using member
    obtain ⟨rfl, _⟩ := same
    cases nested
  refine ⟨closed, ?_, ?_⟩
  · refine (scan_append_iff closed _).mpr ?_
    rw [cut]
    intro last ends runs
    obtain rfl := Option.some.inj ends
    cases runs
  · refine mt (scan_append_iff closed _).mp ?_
    rw [cut]
    exact fun ends => ends _ rfl .star

end Token

end JsonQuery
