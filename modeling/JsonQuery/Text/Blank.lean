import JsonQuery.Text.Ranges

/-! White space: the characters with the Unicode property of that name, the few of
them that may stand between the parts of plain notations, and trimming. -/

namespace JsonQuery.Text

/-- The code points with the property White_Space. -/
def blankRanges : Ranges :=
  [(0x9, 0xD), (0x20, 0x20), (0x85, 0x85), (0xA0, 0xA0), (0x1680, 0x1680), (0x2000, 0x200A),
  (0x2028, 0x2029), (0x202F, 0x202F), (0x205F, 0x205F), (0x3000, 0x3000)]

def isBlank (char : Char) : Bool := blankRanges.contains char

/-- The character is one of the four blanks that separate the parts of plain notations. -/
def isGap (char : Char) : Bool :=
  char = ' ' ∨ char = '\t' ∨ char = '\n' ∨ char = '\r'

/-- The text without the characters at its two ends that pass a test. -/
def trimBy (test : Char → Bool) (text : List Char) : List Char :=
  ((text.dropWhile test).reverse.dropWhile test).reverse

def trim (text : List Char) : List Char := trimBy isBlank text

end JsonQuery.Text
