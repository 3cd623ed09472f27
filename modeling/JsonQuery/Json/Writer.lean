import JsonQuery.Json.Basic
import JsonQuery.Binary64.Text

/-! The compact text of JSON values. Doubles are told from integers by a point or
an exponent, and strings escape only what has to be escaped. -/

namespace JsonQuery

namespace Binary64

private def exponentText (power : Int) : List Char :=
  (if power < 0 then '-' else '+') :: Nat.toDigits 10 power.natAbs

/-- A magnitude from `10^-5` up to below `10^16` is written out with a point, any
other one with a single digit before the point and an exponent. -/
def magnitudeText (magnitude : Decimal) : List Char :=
  if -5 ≤ magnitude.leading ∧ magnitude.leading ≤ 15 then
    let (whole, fraction) := magnitude.positional
    whole ++ '.' :: if fraction = [] then ['0'] else fraction
  else
    let mantissa := match magnitude.digits with
      | first :: second :: rest => first :: '.' :: second :: rest
      | digits => digits
    mantissa ++ 'e' :: exponentText magnitude.leading

/-- The JSON text of a double: the shortest digits that read back. -/
def Finite.jsonText (value : Finite) : List Char :=
  let magnitude :=
    if value.units = 0 then ['0', '.', '0'] else magnitudeText (shortest .toEven value.units)
  if value.negative then '-' :: magnitude else magnitude

end Binary64

namespace Json

def numberText : Number → String
  | .integer value => String.ofList (Decimal.integerText value)
  | .float value => String.ofList value.jsonText

private def hexDigit (value : Nat) : Char := Nat.digitChar value

def escaped (char : Char) : List Char :=
  if char = '\x22' ∨ char = '\\' then ['\\', char]
  else if char = '\x08' then ['\\', 'b']
  else if char = '\x0c' then ['\\', 'f']
  else if char = '\n' then ['\\', 'n']
  else if char = '\r' then ['\\', 'r']
  else if char = '\t' then ['\\', 't']
  else if char.toNat < 0x20 then
    ['\\', 'u', '0', '0', hexDigit (char.toNat / 16), hexDigit (char.toNat % 16)]
  else [char]

def quoted (text : String) : String :=
  String.ofList ('\x22' :: (text.toList.flatMap escaped ++ ['\x22']))

mutual

/-- The compact text of a value. -/
def write : Json → String
  | null => "null"
  | bool value => if value then "true" else "false"
  | number value => numberText value
  | string text => quoted text
  | array items => "[" ++ ",".intercalate (writeItems items) ++ "]"
  | object members => "\x7b" ++ ",".intercalate (writeMembers members) ++ "\x7d"

def writeItems : List Json → List String
  | [] => []
  | item :: rest => item.write :: writeItems rest

def writeMembers : List (String × Json) → List String
  | [] => []
  | (key, value) :: rest => (quoted key ++ ":" ++ value.write) :: writeMembers rest

end

end Json

end JsonQuery
