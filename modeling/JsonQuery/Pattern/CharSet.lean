import JsonQuery.Text.Blank
import JsonQuery.Text.CaseFold
import JsonQuery.Text.Word

/-! Sets of characters, as they are described by the classes of a pattern. -/

namespace JsonQuery

/-- A description of a set of characters. -/
inductive CharSet where
  | empty
  | range (first last : Char)
  | digit
  | blank
  | word
  | union (left right : CharSet)
  | intersection (left right : CharSet)
  | difference (left right : CharSet)
  | symmetricDifference (left right : CharSet)
  | complement (set : CharSet)
  | folded (set : CharSet)
  | foldedAscii (set : CharSet)

namespace CharSet

/-- The characters that differ from this one only in the case of an ASCII letter. -/
def asciiVariants (char : Char) : List Char := [char, char.toLower, char.toUpper]

/-- Membership. A folded set holds what differs from a member only in case. -/
def contains (char : Char) : CharSet → Bool
  | empty => false
  | range first last => first ≤ char && char ≤ last
  | digit => Text.isDecimalDigit char
  | blank => Text.isBlank char
  | word => Text.isWordChar char
  | union left right => left.contains char || right.contains char
  | intersection left right => left.contains char && right.contains char
  | difference left right => left.contains char && !right.contains char
  | symmetricDifference left right => left.contains char != right.contains char
  | complement set => !set.contains char
  | folded set => (Text.caseVariants char).any fun variant => set.contains variant
  | foldedAscii set => (asciiVariants char).any fun variant => set.contains variant

def only (char : Char) : CharSet := range char char

def unions : List CharSet → CharSet
  | [] => empty
  | [set] => set
  | set :: rest => union set (unions rest)

def all : CharSet := complement empty

def asciiDigit : CharSet := range '0' '9'

def asciiLower : CharSet := range 'a' 'z'

def asciiUpper : CharSet := range 'A' 'Z'

def asciiLetter : CharSet := union asciiLower asciiUpper

def asciiWord : CharSet := unions [asciiLetter, asciiDigit, only '_']

def asciiBlank : CharSet := unions [range '\t' '\r', only ' ']

def asciiPunctuation : CharSet :=
  unions [range '!' '/', range ':' '@', range '[' '\x60', range '\x7b' '~']

/-- The sets that have a name inside a class. -/
def named? : String → Option CharSet
  | "alnum" => some (union asciiLetter asciiDigit)
  | "alpha" => some asciiLetter
  | "ascii" => some (range '\x00' '\x7f')
  | "blank" => some (unions [only '\t', only ' '])
  | "cntrl" => some (union (range '\x00' '\x1f') (only '\x7f'))
  | "digit" => some asciiDigit
  | "graph" => some (range '!' '~')
  | "lower" => some asciiLower
  | "print" => some (range ' ' '~')
  | "punct" => some asciiPunctuation
  | "space" => some asciiBlank
  | "upper" => some asciiUpper
  | "word" => some asciiWord
  | "xdigit" => some (unions [asciiDigit, range 'a' 'f', range 'A' 'F'])
  | _ => none

end CharSet

end JsonQuery
