import JsonQuery.Binary64.Text
import JsonQuery.Text.Blank

/-! The constants that a filter compares with: their text, their reading and the
pattern that they stand for. -/

namespace JsonQuery

/-- The right side of a comparison. Only `undefined` equals a path that leads nowhere. -/
inductive Literal where
  | undefined
  | null
  | bool (value : Bool)
  | number (value : Binary64)
  | string (text : String)
deriving BEq

namespace Literal

def boolText (value : Bool) : String := if value then "true" else "false"

/-- The text from which a pattern is compiled. -/
def patternText : Literal → String
  | undefined => "undefined"
  | null => "null"
  | bool value => boolText value
  | number value => value.plainText
  | string text => text

/-- The text of a literal; strings stand between double quotes, without escapes. -/
def written : Literal → List Char
  | string text => '\x22' :: (text.toList ++ ['\x22'])
  | literal => literal.patternText.toList

/-- The text between a pair of the given quotes. -/
def unquote? (quote : Char) : List Char → Option (List Char)
  | [] => none
  | first :: rest =>
    if first = quote ∧ rest.getLast? = some quote then some rest.dropLast else none

/-- Read a finite number that starts with a minus sign or a digit. -/
def readNumber? (text : List Char) : Option Binary64 :=
  if (text.head?.map fun first => first = '-' || first.isDigit).getD false then
    (Binary64.read? text).filter Binary64.isFinite
  else none

/-- Read a literal. A word that is no keyword and no number is a string, and a pair
of double or single quotes around a string is dropped. -/
def read (text : List Char) : Literal :=
  if text = ['t', 'r', 'u', 'e'] then bool true
  else if text = ['f', 'a', 'l', 's', 'e'] then bool false
  else if text = ['n', 'u', 'l', 'l'] then null
  else if text = ['u', 'n', 'd', 'e', 'f', 'i', 'n', 'e', 'd'] then undefined
  else match readNumber? text with
    | some value => number value
    | none =>
      let bare := (unquote? '\x22' text).orElse fun _ => unquote? '\x27' text
      string (String.ofList (bare.getD text))

end Literal

end JsonQuery
