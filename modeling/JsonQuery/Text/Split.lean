/-! Cutting a text at every occurrence of a separator, from left to right and
without overlap. -/

namespace JsonQuery.Text

/-- Put a character in front of the first part. -/
def consPart (char : Char) : List (List Char) → List (List Char)
  | [] => [[char]]
  | part :: parts => (char :: part) :: parts

/-- The parts of a text between the occurrences of a separator, which is given as
its first character and the rest of it. -/
def split (first : Char) (more : List Char) (text : List Char) : List (List Char) :=
  match text with
  | [] => [[]]
  | char :: rest =>
    if char = first ∧ more.isPrefixOf rest then
      [] :: split first more (rest.drop more.length)
    else consPart char (split first more rest)
termination_by text.length
decreasing_by all_goals simp only [List.length_drop, List.length_cons]; omega

end JsonQuery.Text
