import JsonQuery.Pattern.CharSet

/-! The ranges of code points in a set of characters. -/

namespace JsonQuery.CharSet

def asciiFoldRun : Text.FoldRun := ⟨'A'.toNat, 'Z'.toNat, 1, 'a'.toNat⟩

/-- The ranges of a set, in ascending order. -/
def ranges : CharSet → Text.Ranges
  | empty => []
  | range first last => if first ≤ last then [(first.toNat, last.toNat)] else []
  | digit => Text.digitRanges
  | blank => Text.blankRanges
  | word => Text.Ranges.union (Text.connectorRanges ++ Text.digitRanges) Text.letterRanges
  | union left right => Text.Ranges.union left.ranges right.ranges
  | intersection left right => Text.Ranges.intersection left.ranges right.ranges
  | difference left right => Text.Ranges.difference left.ranges right.ranges
  | symmetricDifference left right =>
    Text.Ranges.union (Text.Ranges.difference left.ranges right.ranges)
      (Text.Ranges.difference right.ranges left.ranges)
  | complement set => Text.Ranges.complement set.ranges
  | folded set => Text.Ranges.withVariants Text.foldRuns set.ranges
  | foldedAscii set => Text.Ranges.withVariants [asciiFoldRun] set.ranges

end JsonQuery.CharSet
