import JsonQuery.Pattern.Basic

/-! The text of a pattern while it is read, and the flags in force. In spacious
mode blanks and comments may stand between the parts of a pattern. -/

namespace JsonQuery

/-- The flags that change how a pattern is understood. -/
structure PatternFlags where
  ignoreCase : Bool := false
  multiLine : Bool := false
  dotAll : Bool := false
  carriage : Bool := false
  spacious : Bool := false
  ascii : Bool := false

/-- What is left of a pattern, the flags, and the names of its groups so far. -/
structure PatternSource where
  rest : List Char
  flags : PatternFlags
  names : List (List Char)

/-- Reading a part of a pattern, which fails if the pattern is malformed. -/
abbrev PatternReading := StateT PatternSource Option

namespace PatternSource

/-- The text behind blanks and comments; a comment ends with its line. -/
def skipGaps (inComment : Bool) : List Char → List Char
  | [] => []
  | char :: rest =>
    if inComment then skipGaps (char != '\n') rest
    else if char = '#' then skipGaps true rest
    else if Text.isBlank char then skipGaps false rest
    else char :: rest

/-- At most `limit` characters that pass a test, among which there may be gaps in
spacious mode, and the text behind them and behind the gaps that follow. -/
def takeRun (test : Char → Bool) (spacious inComment : Bool) (limit : Nat) :
    List Char → List Char × List Char
  | [] => ([], [])
  | char :: rest =>
    if inComment then takeRun test spacious (char != '\n') limit rest
    else if spacious ∧ char = '#' then takeRun test spacious true limit rest
    else if spacious ∧ Text.isBlank char then takeRun test spacious false limit rest
    else if 0 < limit ∧ test char then
      let (run, after) := takeRun test spacious false (limit - 1) rest
      (char :: run, after)
    else ([], char :: rest)

def currentFlags : PatternReading PatternFlags := do
  return (← get).flags

def remaining : PatternReading (List Char) := do
  return (← get).rest

def continueAt (rest : List Char) : PatternReading Unit :=
  modify fun source => { source with rest }

def setFlags (flags : PatternFlags) : PatternReading Unit :=
  modify fun source => { source with flags }

/-- Skip the gap at the front, which there is in spacious mode only. -/
def skipSpace : PatternReading Unit := do
  if (← currentFlags).spacious then continueAt (skipGaps false (← remaining))

/-- Go on with another text behind the gap at its front. -/
def continueBehindGap (rest : List Char) : PatternReading Unit := do
  continueAt rest
  skipSpace

def readRun (test : Char → Bool) (limit : Nat) : PatternReading (List Char) := do
  let (run, after) := takeRun test (← currentFlags).spacious false limit (← remaining)
  continueAt after
  return run

def expect (char : Char) : PatternReading Unit := do
  match ← remaining with
  | next :: rest => if next = char then continueAt rest else failure
  | [] => failure

end PatternSource

end JsonQuery
