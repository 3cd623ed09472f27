import JsonQuery.Decimal
import JsonQuery.Text.Blank
import JsonQuery.Text.Split

/-! Array slices: the text of a slice, and the indices of an array that it
addresses. The arithmetic is on unbounded integers. -/

namespace JsonQuery

/-- A slice of an array. An unset start is the first index, an unset stop the
length of the array, an unset step one. -/
structure Slice where
  start : Option Int64
  stop : Option Int64
  step : Option Int64
deriving DecidableEq

namespace Slice

def boundText (bound : Option Int64) : List Char :=
  bound.elim [] fun value => Decimal.integerText value.toInt

/-- The text of a slice; a step that is unset leaves no second colon. -/
def written (slice : Slice) : List Char :=
  boundText slice.start ++ ':' :: boundText slice.stop ++
    if slice.step = none then [] else ':' :: boundText slice.step

/-- Read one bound: a minus sign or none, then digits, between gaps. No digits leave
the bound unset, and a value outside the range of bounds becomes the nearest one inside. -/
def readBound? (text : List Char) : Option (Option Int64) :=
  let (negative, digits) := match Text.trimBy Text.isGap text with
    | '-' :: rest => (true, rest)
    | core => (false, core)
  if digits.all Char.isDigit then
    let size : Int := Nat.ofDigitChars 10 digits 0
    some (if digits = [] then none
      else some (Int64.ofIntClamp (if negative then -size else size)))
  else none

/-- Read a slice from the whole of a text: two or three bounds between colons. -/
def read? (text : List Char) : Option Slice :=
  match Text.split ':' [] text with
  | [start, stop] => do
    return ⟨← readBound? start, ← readBound? stop, none⟩
  | [start, stop, step] => do
    return ⟨← readBound? start, ← readBound? stop, ← readBound? step⟩
  | _ => none

/-- A negative index counts from the end of the array. -/
def normalize (index length : Int) : Int :=
  if index < 0 then index + length else index

def signedStep (slice : Slice) : Int := slice.step.elim 1 Int64.toInt

/-- The distance between selected indices. -/
def stride (slice : Slice) : Int := slice.signedStep.natAbs

/-- The index at which the progression starts, which may lie before the array. -/
def origin (slice : Slice) (length : Int) : Int :=
  normalize (slice.start.elim 0 Int64.toInt) length

/-- The index at which the progression ends, at most the length. -/
def bound (slice : Slice) (length : Int) : Int :=
  min (normalize (slice.stop.elim length Int64.toInt) length) length

/-- The least multiple of the stride that brings a negative origin into the array. -/
def jump (origin stride : Int) : Int := (-origin + stride - 1) / stride * stride

/-- The first index of the progression that is not negative. -/
def entry (slice : Slice) (length : Int) : Int :=
  let origin := slice.origin length
  if origin < 0 then origin + jump origin slice.stride else origin

/-- The values of a counter that climbs by the stride while it is below the bound. -/
def climb (stride bound counter : Int) : List Int :=
  if 0 < stride ∧ counter < bound then counter :: climb stride bound (counter + stride) else []
termination_by (bound - counter).toNat
decreasing_by omega

/-- The counter as an index, if it fits 64 bits. -/
def toIndex? (counter : Int) : Option Nat :=
  if 0 ≤ counter ∧ counter < UInt64.size then some counter.toNat else none

/-- The indices of an array of the given length that the slice addresses. Only the
size of the step drives the progression; a negative one reverses the result. -/
def indices (slice : Slice) (length : Nat) : List Nat :=
  if slice.signedStep = 0 then []
  else
    let climbing :=
      (climb slice.stride (slice.bound length) (slice.entry length)).filterMap toIndex?
    if slice.signedStep < 0 then climbing.reverse else climbing

def apply {α : Type} (slice : Slice) (items : List α) : List α :=
  (slice.indices items.length).filterMap (items[·]?)

end Slice

end JsonQuery
