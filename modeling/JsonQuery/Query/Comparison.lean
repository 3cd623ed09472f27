import JsonQuery.Json.Writer
import JsonQuery.Query.Literal

/-! The comparison operators, and how a value found at a path compares with a
literal. Equality is strict; order is that of texts between two strings and that
of numbers otherwise. -/

namespace JsonQuery

/-- An operator of a filter. -/
inductive Comparison where
  | equal
  | greater
  | less
  | greaterOrEqual
  | lessOrEqual
  | matching
deriving DecidableEq

namespace Comparison

/-- The symbol of an operator: its first character and the rest of it. -/
def symbol : Comparison → Char × List Char
  | equal => ('=', [])
  | greater => ('>', [])
  | less => ('<', [])
  | greaterOrEqual => ('>', ['='])
  | lessOrEqual => ('<', ['='])
  | matching => ('~', [])

def written (operator : Comparison) : List Char := operator.symbol.1 :: operator.symbol.2

end Comparison

/-- The double that a text stands for: zero if it is blank, undefined if it is no number. -/
def Binary64.ofText (text : String) : Binary64 :=
  match Text.trim text.toList with
  | [] => .finite (Binary64.Finite.zero false)
  | core => (Binary64.read? core).getD .nan

def Binary64.ofBool (value : Bool) : Binary64 := Binary64.ofInt (if value then 1 else 0)

/-- The double that a literal stands for in a comparison of order. -/
def Literal.toNumber : Literal → Binary64
  | undefined => .nan
  | null => .finite (Binary64.Finite.zero false)
  | bool value => Binary64.ofBool value
  | number value => value
  | string text => Binary64.ofText text

/-- The double that a value stands for in a comparison of order. -/
def Json.toNumber : Json → Binary64
  | null => .finite (Binary64.Finite.zero false)
  | bool value => Binary64.ofBool value
  | number value => value.toBinary64
  | string text => Binary64.ofText text
  | array _ => .nan
  | object _ => .nan

/-- What a path leads to on an item, which may be nothing. -/
abbrev Resolved := Option Json

/-- The double that a path stands for in a comparison of order. -/
def Resolved.toNumber (resolved : Resolved) : Binary64 := resolved.elim .nan Json.toNumber

/-- The text that a pattern is tested against. -/
def Resolved.toText : Resolved → String
  | none => "undefined"
  | some (.string text) => text
  | some (.number (.float value)) => String.ofList value.plainText
  | some value => value.write

namespace Comparison

/-- Equality of kind and value, with numbers compared as doubles. -/
def strictlyEqual : Resolved → Literal → Bool
  | none, .undefined => true
  | some .null, .null => true
  | some (.bool left), .bool right => left == right
  | some (.number left), .number right => left.toBinary64 == right
  | some (.string left), .string right => left == right
  | _, _ => false

/-- The order of two sides, where there is one. -/
def relate (left : Resolved) (right : Literal) : Option Ordering :=
  match left, right with
  | some (.string left), .string right => some (compare left right)
  | _, _ => (Resolved.toNumber left).compare? right.toNumber

/-- Whether an operator holds; `matching` is decided by a pattern and not here. -/
def holds? (operator : Comparison) (left : Resolved) (right : Literal) : Option Bool :=
  match operator with
  | equal => some (strictlyEqual left right)
  | greater => some (relate left right == some .gt)
  | less => some (relate left right == some .lt)
  | greaterOrEqual => some ((relate left right).any fun order => order != .lt)
  | lessOrEqual => some ((relate left right).any fun order => order != .gt)
  | matching => none

end Comparison

end JsonQuery
