/-! Sets of characters as lists of code point ranges, and the operations on them. The
ranges of a result are in ascending order and do not touch if those of the operands are
and do not. -/

namespace JsonQuery.Text

/-- First and last code points of consecutive ranges. -/
abbrev Ranges := List (Nat × Nat)

namespace Ranges

def contains (ranges : Ranges) (char : Char) : Bool :=
  ranges.any fun (first, last) => first ≤ char.toNat && char.toNat ≤ last

/-- Add a range; those that it meets or touches become one with it. -/
def add (first last : Nat) : Ranges → Ranges
  | [] => [(first, last)]
  | (low, high) :: rest =>
    if last + 1 < low then (first, last) :: (low, high) :: rest
    else if high + 1 < first then (low, high) :: add first last rest
    else add (min first low) (max last high) rest

/-- What is in one of two sets. The ranges of the first may come in any order. -/
def union (added ranges : Ranges) : Ranges :=
  added.foldl (fun ranges (first, last) => Ranges.add first last ranges) ranges

/-- What lies between ranges, from a code point to the last one of all. -/
def gaps (start : Nat) : Ranges → Ranges
  | [] => if start ≤ 0x10FFFF then [(start, 0x10FFFF)] else []
  | (low, high) :: rest =>
    if start < low then (start, low - 1) :: gaps (high + 1) rest else gaps (high + 1) rest

/-- The characters that are not in a set. Surrogates are no characters. -/
def complement (ranges : Ranges) : Ranges :=
  gaps 0 (Ranges.add 0xD800 0xDFFF ranges)

def intersection (left right : Ranges) : Ranges :=
  complement (union (complement left) (complement right))

def difference (left right : Ranges) : Ranges :=
  complement (union right (complement left))

end Ranges

end JsonQuery.Text
