/-! What can be wrong with a sequence of tokens. -/

namespace JsonQuery

/-- What is wrong with a sequence of tokens. -/
inductive Fault where
  | filterWithoutSegment
  | sliceWithoutProperty
  | unclosedGroup
  | unexpectedToken
  | nestingTooDeep
deriving DecidableEq

def Fault.description : Fault → String
  | filterWithoutSegment => "filter has no preceding segment"
  | sliceWithoutProperty => "slice has no preceding property"
  | unclosedGroup => "expected ')' to close group"
  | unexpectedToken => "unexpected token"
  | nestingTooDeep => "selector nests too deeply"

/-- A fault and the number of tokens before it. -/
structure ParseError where
  fault : Fault
  position : Nat
deriving DecidableEq

def ParseError.message (error : ParseError) : String :=
  "at token " ++ toString error.position ++ ", " ++ error.fault.description

end JsonQuery
