import JsonQuery.Pattern.Blueprint
import JsonQuery.Text.Utf8

/-! The size of the automata of a pattern. One automaton reads the bytes of a text from
its start and one from its end. They are measured by their blueprint and never built, so
that counts of any height do no harm. -/

namespace JsonQuery

/-- The number of states of an automaton, of the links by which states lead on without
reading a byte to one of several others, and of the ranges of bytes between which states
choose. -/
structure AutomatonSize where
  states : Nat
  links : Nat
  ranges : Nat

namespace AutomatonSize

def zero : AutomatonSize := ⟨0, 0, 0⟩

def plus (left right : AutomatonSize) : AutomatonSize :=
  ⟨left.states + right.states, left.links + right.links, left.ranges + right.ranges⟩

instance : Add AutomatonSize := ⟨plus⟩

def total (sizes : List AutomatonSize) : AutomatonSize := sizes.foldl plus zero

def times (count : Nat) (size : AutomatonSize) : AutomatonSize :=
  ⟨count * size.states, count * size.links, count * size.ranges⟩

def plain (states : Nat) : AutomatonSize := ⟨states, 0, 0⟩

/-- The memory that an automaton takes, in bytes. -/
def bytes (size : AutomatonSize) : Nat := 32 * size.states + 4 * size.links + 8 * size.ranges

/-- The most memory that an automaton may take, in bytes. -/
def maxBytes : Nat := 10 * 1024 * 1024

end AutomatonSize

inductive ReadingDirection where
  | forward
  | backward
deriving DecidableEq

/-- The different items with which words start. -/
def firstItems {Item : Type} [BEq Item] (words : List (List Item)) : List Item :=
  (words.filterMap List.head?).eraseDups

/-- What follows a first item in the words that start with it. -/
def restsAfter {Item : Type} [BEq Item] (item : Item) (words : List (List Item)) :
    List (List Item) :=
  words.filterMap fun word =>
    match word with
    | first :: rest => if first == item then some rest else none
    | [] => none

namespace ReadingDirection

/-- The runs of words between the empty ones. -/
private def runsBetweenEmpty (words : List (List Nat)) : List (List (List Nat)) :=
  words.foldr (fun word runs =>
    match word, runs with
    | [], _ => [] :: runs
    | _, run :: rest => (word :: run) :: rest
    | _, [] => [[word]]) [[]]

/-- The states that choose between words, all but the last one. Words before and behind an
empty one are kept apart, for their order counts; of empty ones that come first, one is
as good as several. The depth bounds the length of words. -/
private def treeSize (depth : Nat) (words : List (List Nat)) : AutomatonSize :=
  match depth with
  | 0 => .zero
  | depth + 1 =>
    if words.all List.isEmpty then .zero
    else
      let empty := words.takeWhile List.isEmpty
      let runs := runsBetweenEmpty (empty.take 1 ++ words.drop empty.length)
      let filled := runs.filter fun run => !run.isEmpty
      ⟨1, runs.length - 1 + filled.length, 0⟩ + .total (filled.map fun run =>
        let firsts := firstItems run
        ⟨1, 0, if firsts.length = 1 then 0 else firsts.length⟩ +
          .total (firsts.map fun first => treeSize depth (restsAfter first run)))

def wordsSize (direction : ReadingDirection) (words : List (List Char)) : AutomatonSize :=
  let encoded := words.map fun word =>
    let bytes := word.flatMap fun char => Text.utf8Bytes char.toNat
    if direction = forward then bytes else bytes.reverse
  .plain 1 + treeSize (encoded.foldl (fun depth word => max depth word.length) 0) encoded

/-- All different lists of what may follow after some bytes of a block, the empty list of
bytes included. The depth bounds the length of blocks. -/
private def remainders (depth : Nat) (blocks : List Text.ByteBlock) :
    List (List Text.ByteBlock) :=
  match depth with
  | 0 => []
  | depth + 1 =>
    blocks :: (firstItems blocks).flatMap fun first =>
      match restsAfter first blocks with
      | [[]] => []
      | rests => remainders depth rests

/-- The number of ranges by which each block differs from the one before it. -/
private def newRanges (previous : Text.ByteBlock) : List Text.ByteBlock → Nat
  | [] => 0
  | block :: rest =>
    block.length - (commonStart previous block).length + newRanges block rest

/-- The size of a set of characters. Reading forward, blocks with the same end share the
states of it; reading backward, those with the same start do. -/
def setSize (direction : ReadingDirection) (ranges : Text.Ranges) : AutomatonSize :=
  if ranges.all fun (_, last) => last < 0x80 then ⟨2, 0, ranges.length⟩
  else
    let blocks := Text.Ranges.byteBlocks ranges
    match direction with
    | forward =>
      let nodes := (remainders 4 blocks).eraseDups
      ⟨nodes.length + 1, 0, nodes.foldl (fun count node => count + (firstItems node).length) 0⟩
    | backward => ⟨newRanges [] blocks + 2, blocks.length, 0⟩

def literalSize (text : List Char) : AutomatonSize :=
  .plain (max 1 (text.foldl (fun count char => count + char.utf8Size) 0))

/-- The size of a repetition, by that of what is repeated. Each round that may be left
out has a state to leave it out. -/
def repetitionSize (inner : Blueprint) (size : AutomatonSize) (least : Nat) :
    Option Nat → AutomatonSize
  | some most =>
    let forced := if least = 0 then .plain 1 else size.times least
    if least = 0 ∧ most = 1 then size + ⟨2, 2, 0⟩
    else if least = most then forced
    else forced + .plain 1 + (size + ⟨1, 2, 0⟩).times (most - least)
  | none =>
    if 0 < least then size.times least + ⟨1, 2, 0⟩
    else if inner.leastLength.any (0 < ·) then size + ⟨1, 2, 0⟩
    else size + ⟨3, 4, 0⟩

/-- The words between which a choice is made, if it is made between words only. -/
def words? (blueprint : Blueprint) : Option (List (List Char)) :=
  match blueprint.branches with
  | [_] => none
  | branches => branches.mapM fun branch =>
    match branch with
    | .literal (first :: rest) => some (first :: rest)
    | _ => none

/-- The size of a blueprint, by those of its branches. -/
def joinedSize (direction : ReadingDirection) (blueprint : Blueprint) :
    List AutomatonSize → AutomatonSize
  | [size] => size
  | sizes =>
    match words? blueprint with
    | some words => direction.wordsSize words
    | none => ⟨2, sizes.length, 0⟩ + .total sizes

/-- The sizes of the branches of a blueprint. Only the automaton that reads forward
remembers captures. -/
def branchSizes (direction : ReadingDirection) : Blueprint → List AutomatonSize
  | .literal text => [literalSize text]
  | .set ranges => [direction.setSize ranges]
  | .assertion _ => [.plain 1]
  | .capture inner =>
    [.plain (if direction = forward then 2 else 0) +
      direction.joinedSize inner (branchSizes direction inner)]
  | .repetition inner least most =>
    [repetitionSize inner (direction.joinedSize inner (branchSizes direction inner)) least most]
  | .sequence first rest =>
    [direction.joinedSize first (branchSizes direction first) +
      direction.joinedSize rest (branchSizes direction rest)]
  | .choice first rest =>
    direction.joinedSize first (branchSizes direction first) :: branchSizes direction rest

/-- A match can only begin where reading does, at that end of the text. -/
def isAnchored (direction : ReadingDirection) : Blueprint → Bool
  | .assertion condition =>
    condition = if direction = forward then .textStart else .textEnd
  | .capture inner => isAnchored direction inner
  | .repetition inner least _ => 0 < least && isAnchored direction inner
  | .sequence first rest =>
    if direction = forward then
      isAnchored direction first || first.mostLength = some 0 && isAnchored direction rest
    else isAnchored direction rest || rest.mostLength = some 0 && isAnchored direction first
  | .choice first rest => isAnchored direction first && isAnchored direction rest
  | _ => false

/-- The size of the whole automaton of a blueprint: how a match is looked for, the match
itself, which is captured as a whole, and a last state. -/
def automatonSize (direction : ReadingDirection) (blueprint : Blueprint) : AutomatonSize :=
  let entry := if direction.isAnchored blueprint then .plain 1 else ⟨3, 2, 1⟩
  let captured := Blueprint.capture blueprint
  entry + direction.joinedSize captured (direction.branchSizes captured) + .plain 1

end ReadingDirection

/-- Both automata of a pattern are small enough to be built. -/
def Pattern.isBuildable (pattern : Pattern) : Bool :=
  let blueprint := pattern.blueprint
  (ReadingDirection.forward.automatonSize blueprint).bytes ≤ AutomatonSize.maxBytes &&
    (ReadingDirection.backward.automatonSize blueprint).bytes ≤ AutomatonSize.maxBytes

end JsonQuery
