import JsonQuery.Pattern.Basic

/-! Matching. A set of places in a text is a number whose bits are the places, so
that the places which a pattern leads to are computed for all starting places at
once. A pattern matches a text if some place leads anywhere. -/

namespace JsonQuery

/-- A set of places in a text, one bit for each of them. -/
abbrev Places := Nat

/-- What an atom does to places in one text: step over the next character of some of
them, or keep some of them. -/
inductive Move where
  | advance (start : Places)
  | keep (held : Places)

namespace Places

/-- The places in front of a character that passes a test. -/
def beforeChar (test : Char → Bool) : List Char → Places
  | [] => 0
  | char :: rest => (test char).toNat + 2 * beforeChar test rest

/-- The places whose two neighbours pass a test. -/
def between (test : Option Char → Option Char → Bool) (before : Option Char) :
    List Char → Places
  | [] => (test before none).toNat
  | char :: rest => (test before (some char)).toNat + 2 * between test (some char) rest

/-- All places of a text, the one at its end included. -/
def whole (text : List Char) : Places := (1 <<< (text.length + 1)) - 1

end Places

namespace Move

def ofAtom (text : List Char) : PatternAtom → Move
  | .one set => advance (Places.beforeChar (fun char => set.contains char) text)
  | .assertion condition isWord =>
    keep (Places.between
      (fun before after => condition.holds (fun char => isWord.contains char) before after)
      none text)

/-- The places reached in one move. -/
def reach (places : Places) : Move → Places
  | advance start => (places &&& start) <<< 1
  | keep held => places &&& held

end Move

/-- Take a step a number of times, or until it changes nothing. -/
def repeatStep (step : Places → Places) : Nat → Places → Places
  | 0, places => places
  | count + 1, places =>
    let next := step places
    if next = places then places else repeatStep step count next

namespace Regular

/-- The places that a pattern leads to from the given ones. An unbounded repetition
is exhausted after as many rounds as there are places. -/
def reach (rounds : Nat) (places : Places) : Regular Move → Places
  | empty => places
  | atom move => move.reach places
  | sequence first second => second.reach rounds (first.reach rounds places)
  | choice first second => first.reach rounds places ||| second.reach rounds places
  | repetition inner least most =>
    let forced := repeatStep (fun places => inner.reach rounds places) least places
    let spare := most.elim rounds (· - least)
    repeatStep (fun places => places ||| inner.reach rounds places) spare forced
  | group _ inner => inner.reach rounds places

end Regular

/-- Some part of the text matches the pattern. -/
def Pattern.occursIn (pattern : Pattern) (text : String) : Bool :=
  let chars := text.toList
  (Regular.map (Move.ofAtom chars) pattern).reach (chars.length + 1) (Places.whole chars) != 0

end JsonQuery
