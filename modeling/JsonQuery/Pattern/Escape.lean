import JsonQuery.Pattern.Source

/-! The primitives of a pattern: literal characters, the dot, assertions and the
classes that are written with a letter. -/

namespace JsonQuery

/-- A primitive. A literal written with two hexadecimal digits is a byte. -/
inductive PatternPrimitive where
  | literal (char : Char) (byte : Bool)
  | dot
  | assertion (condition : Assertion)
  | digits (negated : Bool)
  | blanks (negated : Bool)
  | words (negated : Bool)

namespace PatternPrimitive

open PatternSource

private def hexDigitValue (char : Char) : Nat :=
  if char.isDigit then char.toNat - 48
  else if char ≤ 'F' then char.toNat - 55
  else char.toNat - 87

private def isHexDigit (char : Char) : Bool :=
  char.isDigit || 'a' ≤ char && char ≤ 'f' || 'A' ≤ char && char ≤ 'F'

private def hexChar (digits : List Char) : PatternReading Char :=
  let code := digits.foldl (fun code digit => code * 16 + hexDigitValue digit) 0
  if digits ≠ [] ∧ code.isValidChar then return Char.ofNat code else failure

/-- Read a code point: so many hexadecimal digits, or any number of them in braces. -/
private def readHex (count : Nat) (isByte : Bool) : PatternReading PatternPrimitive := do
  skipSpace
  match ← remaining with
  | '\x7b' :: rest =>
    continueAt rest
    let digits ← readRun isHexDigit rest.length
    expect '\x7d'
    skipSpace
    return literal (← hexChar digits) false
  | _ =>
    let digits ← readRun isHexDigit count
    if digits.length = count then return literal (← hexChar digits) isByte else failure

/-- The boundaries that have a name in braces. -/
private def namedBoundary? (name : List Char) : Option Assertion :=
  match String.ofList name with
  | "start" => some .wordStart
  | "end" => some .wordEnd
  | "start-half" => some .wordStartHalf
  | "end-half" => some .wordEndHalf
  | _ => none

private def isBoundaryChar (char : Char) : Bool := char.isAlpha || char = '-'

/-- Read what may follow the letter of a word boundary. A brace that opens no name
is left for a repetition. -/
private def readBoundary : PatternReading PatternPrimitive := do
  match ← remaining with
  | '\x7b' :: rest =>
    let before ← get
    continueBehindGap rest
    match ← remaining with
    | [] => failure
    | char :: _ =>
      if isBoundaryChar char then
        let name ← readRun isBoundaryChar rest.length
        expect '\x7d'
        match namedBoundary? name with
        | some condition => return assertion condition
        | none => failure
      else
        set before
        return assertion .wordBoundary
  | _ => return assertion .wordBoundary

/-- A letter or digit has a meaning of its own behind a backslash. -/
private def isPlainEscape (char : Char) : Bool :=
  char.toNat < 0x80 && !char.isAlphanum && char != '<' && char != '>'

/-- Read an escape behind its backslash. The letters `p` and `P`, which would name a property,
are among those without a meaning. -/
def readEscape : PatternReading PatternPrimitive := do
  match ← remaining with
  | [] => failure
  | char :: rest =>
    continueAt rest
    match char with
    | 'x' => readHex 2 true
    | 'u' => readHex 4 false
    | 'U' => readHex 8 false
    | 'd' => return digits false
    | 'D' => return digits true
    | 's' => return blanks false
    | 'S' => return blanks true
    | 'w' => return words false
    | 'W' => return words true
    | 'a' => return literal '\x07' false
    | 'f' => return literal '\x0c' false
    | 't' => return literal '\t' false
    | 'n' => return literal '\n' false
    | 'r' => return literal '\r' false
    | 'v' => return literal '\x0b' false
    | 'A' => return assertion .textStart
    | 'z' => return assertion .textEnd
    | 'b' => readBoundary
    | 'B' => return assertion .notWordBoundary
    | '<' => return assertion .wordStart
    | '>' => return assertion .wordEnd
    | _ => if isPlainEscape char then return literal char false else failure

/-- The set of a class written with a letter. Without Unicode it has ASCII members
only, and its complement would not be made of whole characters. -/
def classSet? (ascii : Bool) : PatternPrimitive → Option CharSet
  | digits false => some (if ascii then .asciiDigit else .digit)
  | blanks false => some (if ascii then .asciiBlank else .blank)
  | words false => some (if ascii then .asciiWord else .word)
  | digits true => if ascii then none else some (.complement .digit)
  | blanks true => if ascii then none else some (.complement .blank)
  | words true => if ascii then none else some (.complement .word)
  | _ => none

end PatternPrimitive

end JsonQuery
