import JsonQuery.Query.Folding
import JsonQuery.Query.Token

/-! Expressions from tokens. Conjunction binds tighter than disjunction, both
associate to the left, and every operand may be empty. Groups and negations nest
within a budget, and the height of the expression has the same bound. -/

namespace JsonQuery

namespace Parse

/-- The tokens still to be read, and how many come before them. -/
structure Cursor where
  position : Nat
  rest : List Token

/-- The cursor behind the tokens up to `rest`. -/
def Cursor.skip (cursor : Cursor) (rest : List Token) : Cursor := ⟨cursor.position + 1, rest⟩

/-- Read the segments of a chain; those read so far are listed in reverse. -/
def readSegments (position : Nat) (done : Chain) :
    List Token → Except ParseError (Chain × Cursor)
  | .dot :: rest => readSegments (position + 1) done rest
  | .property name :: rest => readSegments (position + 1) (.property name none none :: done) rest
  | .wildcard :: rest => readSegments (position + 1) (.wildcard none :: done) rest
  | .deepWildcard :: rest => readSegments (position + 1) (.deepWildcard none :: done) rest
  | .filter text :: rest =>
    match done with
    | [] => .error ⟨.filterWithoutSegment, position⟩
    | last :: before =>
      readSegments (position + 1) (last.withFilter (Filter.read text.toList) :: before) rest
  | .slice value :: rest =>
    match done with
    | .property name filter _ :: before =>
      readSegments (position + 1) (.property name filter (some value) :: before) rest
    | _ => .error ⟨.sliceWithoutProperty, position⟩
  | rest => .ok (done.reverse, ⟨position, rest⟩)

/-- Read a chain, which may be empty. -/
def readChain (cursor : Cursor) : Except ParseError (Measured × Cursor) := do
  let (segments, next) ← readSegments cursor.position [] cursor.rest
  return (⟨.chain segments, 1⟩, next)

def connective? : List Token → Option (Connective × List Token)
  | .both :: rest => some (.both, rest)
  | .either :: rest => some (.either, rest)
  | _ => none

/-- Read the connectives and operands that follow a first operand. Each round takes
a token, so that the number of tokens bounds the rounds. -/
def readOperands (operand : Cursor → Except ParseError (Measured × Cursor)) (rounds : Nat)
    (cursor : Cursor) :
    Except ParseError (List (Connective × Measured) × Cursor) :=
  match rounds, connective? cursor.rest with
  | _, none => .ok ([], cursor)
  | 0, _ => .ok ([], cursor)
  | rounds + 1, some (connective, rest) => do
    let (right, next) ← operand (cursor.skip rest)
    let (others, next) ← readOperands operand rounds next
    return ((connective, right) :: others, next)

def readJoined (operand : Cursor → Except ParseError (Measured × Cursor)) (cursor : Cursor) :
    Except ParseError (Measured × Cursor) := do
  let (first, next) ← operand cursor
  let (others, next) ← readOperands operand next.rest.length next
  return (← combine next.position first others, next)

/-- Read a group behind its opening parenthesis, which stands at `start`. -/
def readGroup (start : Nat) (operand : Cursor → Except ParseError (Measured × Cursor))
    (cursor : Cursor) : Except ParseError (Measured × Cursor) := do
  let (inner, next) ← readJoined operand cursor
  match next.rest with
  | .closing :: rest => return (inner, next.skip rest)
  | _ => .error ⟨.unclosedGroup, start⟩

def readNegation (operand : Cursor → Except ParseError (Measured × Cursor)) (cursor : Cursor) :
    Except ParseError (Measured × Cursor) := do
  let (inner, next) ← operand cursor
  return (← measured next.position (.negation inner.expression) (inner.height + 1), next)

/-- Read an operand: a negation, a group or a chain. The budget is the number of
groups and negations that may still be entered. -/
def readOperand (budget : Nat) (cursor : Cursor) : Except ParseError (Measured × Cursor) :=
  match budget, cursor.rest with
  | budget + 1, .negation :: rest => readNegation (readOperand budget) (cursor.skip rest)
  | budget + 1, .opening :: rest =>
    readGroup cursor.position (readOperand budget) (cursor.skip rest)
  | 0, .negation :: _ => .error ⟨.nestingTooDeep, cursor.position⟩
  | 0, .opening :: _ => .error ⟨.nestingTooDeep, cursor.position⟩
  | _, _ => readChain cursor

end Parse

def Expression.ofTokens (tokens : List Token) : Except ParseError Expression := do
  let (whole, next) ← Parse.readJoined (Parse.readOperand maxNesting) ⟨0, tokens⟩
  if next.rest.isEmpty then return whole.expression
  else .error ⟨.unexpectedToken, next.position⟩

def Expression.read (text : String) : Except ParseError Expression :=
  ofTokens (Token.scan text.toList)

end JsonQuery
