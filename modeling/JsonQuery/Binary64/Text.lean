import JsonQuery.Binary64.Shortest

/-! The text of doubles: the plain rendering, which never has an exponent, and
the reading of numbers, infinities and the undefined value. -/

namespace JsonQuery.Binary64

def signText (negative : Bool) : List Char := if negative then ['-'] else []

/-- The shortest digits that read back, written without an exponent and without
a point after a whole number. -/
def Finite.plainText (value : Finite) : List Char :=
  let magnitude : Decimal := if value.units = 0 then ⟨0, 0⟩ else shortest .up value.units
  let (whole, fraction) := magnitude.positional
  signText value.negative ++ whole ++ if fraction = [] then [] else '.' :: fraction

def plainText : Binary64 → String
  | nan => "NaN"
  | infinite negative => String.ofList (signText negative ++ ['i', 'n', 'f'])
  | finite value => String.ofList value.plainText

/-- The named values, in any mixture of cases. -/
def readName? (negative : Bool) (text : List Char) : Option Binary64 :=
  let name := String.ofList (text.map Char.toLower)
  if name = "nan" then some nan
  else if name = "inf" ∨ name = "infinity" then some (infinite negative)
  else none

/-- Read a number with an optional sign, correctly rounded. -/
def read? (text : List Char) : Option Binary64 :=
  let (negative, magnitude) := Decimal.splitSign text
  (readName? negative magnitude).orElse fun _ =>
    (Decimal.read? magnitude).map (ofDecimal negative)

end JsonQuery.Binary64
