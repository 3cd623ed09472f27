import JsonQuery.Pattern.Basic
import JsonQuery.Pattern.CharSet.Ranges

/-! Blueprints: patterns in the plain form in which they are made into automata. Parts
that are always empty are dropped, neighbouring literals are joined, a choice between
characters is a set, and what all branches of a choice begin with stands before it. -/

namespace JsonQuery

/-- The longest list that two lists begin with. -/
def commonStart {Item : Type} [DecidableEq Item] : List Item → List Item → List Item
  | item :: rest, other :: others => if item = other then item :: commonStart rest others else []
  | _, _ => []

/-- The blueprint of an automaton. The empty pattern is the empty literal. The first part
of a sequence is no sequence, and the first branch of a choice is no choice. -/
inductive Blueprint where
  | literal (text : List Char)
  | set (ranges : Text.Ranges)
  | assertion (condition : Assertion)
  | capture (inner : Blueprint)
  | repetition (inner : Blueprint) (least : Nat) (most : Option Nat)
  | sequence (first rest : Blueprint)
  | choice (first rest : Blueprint)
deriving DecidableEq

namespace Blueprint

/-- The fewest characters of a match, if there can be a match. -/
def leastLength : Blueprint → Option Nat
  | literal text => some text.length
  | set ranges => if ranges = [] then none else some 1
  | assertion _ => some 0
  | capture inner => inner.leastLength
  | repetition inner least _ => inner.leastLength.map (least * ·)
  | sequence first rest => do return (← first.leastLength) + (← rest.leastLength)
  | choice first rest => do return min (← first.leastLength) (← rest.leastLength)

/-- The most characters of a match, if there can be a match and its length is bounded. -/
def mostLength : Blueprint → Option Nat
  | literal text => some text.length
  | set ranges => if ranges = [] then none else some 1
  | assertion _ => some 0
  | capture inner => inner.mostLength
  | repetition inner _ most => do return (← inner.mostLength) * (← most)
  | sequence first rest => do return (← first.mostLength) + (← rest.mostLength)
  | choice first rest => do return max (← first.mostLength) (← rest.mostLength)

/-- Some part captures what it matches. -/
def captures : Blueprint → Bool
  | capture _ => true
  | repetition inner _ _ => inner.captures
  | sequence first rest => first.captures || rest.captures
  | choice first rest => first.captures || rest.captures
  | _ => false

/-- The set with the given ranges; a single character is a literal. -/
def ofRanges : Text.Ranges → Blueprint
  | [(first, last)] =>
    if first = last then literal [Char.ofNat first] else set [(first, last)]
  | ranges => set ranges

/-- A repetition. To repeat what is always empty is no more than to try it once. -/
def repeated (inner : Blueprint) (least : Nat) (most : Option Nat) : Blueprint :=
  let isEmpty := inner.mostLength = some 0
  let least := if isEmpty then min least 1 else least
  let most := if isEmpty then some (min (most.getD 1) 1) else most
  if most = some 0 then literal []
  else if least = 1 ∧ most = some 1 then inner
  else repetition inner least most

def andThen : Blueprint → Blueprint → Blueprint
  | sequence first rest, next => sequence first (rest.andThen next)
  | literal [], next => next
  | first, literal [] => first
  | literal text, literal more => literal (text ++ more)
  | literal text, sequence (literal more) rest => sequence (literal (text ++ more)) rest
  | first, next => sequence first next

def parts : Blueprint → List Blueprint
  | sequence first rest => first :: rest.parts
  | literal [] => []
  | single => [single]

def ofParts (parts : List Blueprint) : Blueprint := parts.foldr andThen (literal [])

def branches : Blueprint → List Blueprint
  | choice first rest => first :: rest.branches
  | single => [single]

/-- The choice between branches that are no choices; between none, nothing is matched. -/
def ofBranches : List Blueprint → Blueprint
  | [] => set []
  | [branch] => branch
  | branch :: rest => choice branch (ofBranches rest)

/-- The range of a literal that is a single character. -/
def single? : Blueprint → Option (Nat × Nat)
  | literal [char] => some (char.toNat, char.toNat)
  | _ => none

def set? : Blueprint → Option Text.Ranges
  | set ranges => some ranges
  | _ => none

/-- A choice between characters only, or between sets only, as one set. -/
def mergeBranches? (branches : List Blueprint) : Option Blueprint :=
  match branches.mapM single?, branches.mapM set? with
  | some ranges, _ => some (ofRanges (Text.Ranges.union ranges []))
  | none, some sets => some (ofRanges (sets.foldl Text.Ranges.union []))
  | none, none => none

/-- The parts that all branches begin with, if each has several. Two captures are never
the same. -/
def sharedStart : List Blueprint → List Blueprint
  | [] => []
  | first :: rest =>
    if (first :: rest).any (·.parts.length < 2) then []
    else (rest.foldl (fun start branch => commonStart start branch.parts) first.parts).takeWhile
      (!·.captures)

/-- The choice between branches that start differently. -/
def chooseApart (branches : List Blueprint) : Blueprint :=
  (mergeBranches? branches).getD (ofBranches branches)

def choose : List Blueprint → Blueprint
  | [branch] => branch
  | alternatives =>
    let alternatives := alternatives.flatMap branches
    let start := sharedStart alternatives
    let ends := alternatives.map fun branch => ofParts (branch.parts.drop start.length)
    if start = [] then chooseApart alternatives
    else (ofParts start).andThen (chooseApart (ends.flatMap branches))

end Blueprint

namespace Pattern

/-- The blueprints of the branches between which a pattern chooses. -/
def blueprints : Pattern → List Blueprint
  | .empty => [.literal []]
  | .atom (.one set) => [.ofRanges set.ranges]
  | .atom (.assertion condition _) => [.assertion condition]
  | .sequence first second =>
    [(Blueprint.choose (blueprints first)).andThen (Blueprint.choose (blueprints second))]
  | .choice first second => Blueprint.choose (blueprints first) :: blueprints second
  | .repetition inner least most => [(Blueprint.choose (blueprints inner)).repeated least most]
  | .group false inner => [Blueprint.choose (blueprints inner)]
  | .group true inner => [.capture (Blueprint.choose (blueprints inner))]

/-- The blueprint of a pattern. -/
def blueprint (pattern : Pattern) : Blueprint := Blueprint.choose (blueprints pattern)

end Pattern

end JsonQuery
