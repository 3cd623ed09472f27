import JsonQuery.Pattern.CharSet

/-! Patterns: regular expressions over characters and assertions about the place
between two characters. Whether a repetition is greedy is no part of a pattern, for
it does not change whether there is a match. -/

namespace JsonQuery

/-- A regular expression over atoms. A repetition without a greatest count is unbounded,
and a group may capture what it matches. -/
inductive Regular (Atom : Type) where
  | empty
  | atom (value : Atom)
  | sequence (first second : Regular Atom)
  | choice (first second : Regular Atom)
  | repetition (inner : Regular Atom) (least : Nat) (most : Option Nat)
  | group (captures : Bool) (inner : Regular Atom)

namespace Regular

def map {Atom Other : Type} (change : Atom → Other) : Regular Atom → Regular Other
  | empty => empty
  | atom value => atom (change value)
  | sequence first second => sequence (first.map change) (second.map change)
  | choice first second => choice (first.map change) (second.map change)
  | repetition inner least most => repetition (inner.map change) least most
  | group captures inner => group captures (inner.map change)

end Regular

/-- A condition on the characters before and after a place in a text. -/
inductive Assertion where
  | textStart
  | textEnd
  | lineStart
  | lineEnd
  | carriageLineStart
  | carriageLineEnd
  | wordBoundary
  | notWordBoundary
  | wordStart
  | wordEnd
  | wordStartHalf
  | wordEndHalf
deriving DecidableEq

namespace Assertion

/-- Whether the condition holds between two neighbours, which are missing at the
ends of the text. The word characters are given. -/
def holds (isWord : Char → Bool) (before after : Option Char) : Assertion → Bool
  | textStart => before.isNone
  | textEnd => after.isNone
  | lineStart => before.all (· == '\n')
  | lineEnd => after.all (· == '\n')
  | carriageLineStart => before.all fun char =>
      char == '\n' || char == '\r' && after != some '\n'
  | carriageLineEnd => after.all fun char =>
      char == '\r' || char == '\n' && before != some '\r'
  | wordBoundary => before.any isWord != after.any isWord
  | notWordBoundary => before.any isWord == after.any isWord
  | wordStart => !before.any isWord && after.any isWord
  | wordEnd => before.any isWord && !after.any isWord
  | wordStartHalf => !before.any isWord
  | wordEndHalf => !after.any isWord

end Assertion

/-- One character of a set, or a place at which an assertion holds. -/
inductive PatternAtom where
  | one (set : CharSet)
  | assertion (condition : Assertion) (isWord : CharSet)

abbrev Pattern := Regular PatternAtom

end JsonQuery
