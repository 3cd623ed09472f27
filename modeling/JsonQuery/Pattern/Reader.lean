import JsonQuery.Pattern.AutomatonSize
import JsonQuery.Pattern.Class

/-! Reading patterns. A pattern that is malformed, nested too deeply, or too large to be
built, has no reading. Neither has one with a class that is named by a property of
characters, such as `\p{Greek}`: of all tables of properties this syntax knows only those
behind `\d`, `\s` and `\w`. -/

namespace JsonQuery

namespace PatternReader

open PatternSource

def maxDepth : Nat := 250

/-- A part of a sequence: a pattern with its depth, or a change of flags. -/
inductive Part where
  | repeatable (pattern : Pattern) (depth : Nat)
  | flags

/-- The pattern of a part; a change of flags matches the empty text. -/
def Part.toPattern : Part → Pattern
  | repeatable pattern _ => pattern
  | flags => .empty

def Part.depth : Part → Nat
  | repeatable _ depth => depth
  | flags => 0

structure Draft where
  pattern : Pattern
  depth : Nat

private def deepest (depths : List Nat) : Nat := depths.foldl max 0

private def sequenceAll : List Pattern → Pattern
  | [] => .empty
  | [pattern] => pattern
  | pattern :: rest => .sequence pattern (sequenceAll rest)

private def chooseAll : List Pattern → Pattern
  | [] => .empty
  | [pattern] => pattern
  | pattern :: rest => .choice pattern (chooseAll rest)

/-- The sequence of parts, the last of which is listed first. -/
def Draft.ofParts (parts : List Part) : Draft :=
  let depth := deepest (parts.map Part.depth)
  ⟨sequenceAll (parts.reverse.map Part.toPattern),
    if 2 ≤ parts.length then depth + 1 else depth⟩

/-- The choice between branches, the last of which is listed first. -/
def Draft.ofBranches (branches : List Draft) : Draft :=
  let depth := deepest (branches.map Draft.depth)
  ⟨chooseAll (branches.reverse.map Draft.pattern),
    if 2 ≤ branches.length then depth + 1 else depth⟩

private def wordSet (flags : PatternFlags) : CharSet :=
  if flags.ascii then .asciiWord else .word

private def startAssertion (flags : PatternFlags) : Assertion :=
  if !flags.multiLine then .textStart
  else if flags.carriage then .carriageLineStart else .lineStart

private def endAssertion (flags : PatternFlags) : Assertion :=
  if !flags.multiLine then .textEnd
  else if flags.carriage then .carriageLineEnd else .lineEnd

private def dotSet (flags : PatternFlags) : CharSet :=
  if flags.dotAll then .all
  else if flags.carriage then .complement (.union (.only '\r') (.only '\n'))
  else .complement (.only '\n')

private def one (set : CharSet) : Pattern := .atom (.one set)

private def literalPattern (char : Char) (byte : Bool) : PatternReading Pattern := do
  let flags ← currentFlags
  if flags.ascii && byte && 0x80 ≤ char.toNat then failure
  else return one (PatternClass.foldCase flags (.only char))

private def primitivePattern (primitive : PatternPrimitive) : PatternReading Pattern := do
  let flags ← currentFlags
  match primitive with
  | .literal char byte => literalPattern char byte
  | .dot => if flags.ascii then failure else return one (dotSet flags)
  | .assertion condition => return .atom (.assertion condition (wordSet flags))
  | _ =>
    match primitive.classSet? flags.ascii with
    | some set => return one set
    | none => failure

private def readPrimitivePattern : PatternReading Pattern := do
  let flags ← currentFlags
  match ← remaining with
  | '\\' :: rest =>
    continueAt rest
    primitivePattern (← PatternPrimitive.readEscape)
  | '.' :: rest =>
    continueAt rest
    primitivePattern .dot
  | '^' :: rest =>
    continueAt rest
    primitivePattern (.assertion (startAssertion flags))
  | '$' :: rest =>
    continueAt rest
    primitivePattern (.assertion (endAssertion flags))
  | char :: rest =>
    continueAt rest
    primitivePattern (.literal char false)
  | [] => failure

structure Bounds where
  least : Nat
  most : Option Nat

/-- Read a count, which blanks may surround and which fits 32 bits. -/
private def readCount? : PatternReading (Option Nat) := do
  continueAt ((← remaining).dropWhile Text.isBlank)
  let rest ← remaining
  if (rest.head?.map Char.isDigit).getD false then
    let digits ← readRun Char.isDigit rest.length
    continueBehindGap ((← remaining).dropWhile Text.isBlank)
    let count := Nat.ofDigitChars 10 digits 0
    if count < UInt32.size then return some count else failure
  else return none

/-- Read the bounds of a counted repetition behind its opening brace. -/
private def readBounds : PatternReading Bounds := do
  skipSpace
  let least ← readCount?
  match least, ← remaining with
  | some least, ',' :: rest =>
    continueBehindGap rest
    match ← remaining with
    | '\x7d' :: _ => return ⟨least, none⟩
    | _ =>
      match ← readCount? with
      | some most => if least ≤ most then return ⟨least, some most⟩ else failure
      | none => failure
  | some least, _ => return ⟨least, some least⟩
  | none, _ => failure

/-- Skip the question mark that makes a repetition lazy. -/
private def skipLazy : PatternReading Unit := do
  match ← remaining with
  | '?' :: rest => continueAt rest
  | _ => return

/-- Read a repetition operator at the front of a text. A repetition may follow any
part but a change of flags. -/
private def readRepetition (operator : Char) : PatternReading Bounds := do
  continueAt (← remaining).tail
  match operator with
  | '*' => skipLazy; return ⟨0, none⟩
  | '+' => skipLazy; return ⟨1, none⟩
  | '?' => skipLazy; return ⟨0, some 1⟩
  | _ =>
    let bounds ← readBounds
    expect '\x7d'
    skipSpace
    skipLazy
    return bounds

private def repeatLast (bounds : Bounds) : List Part → PatternReading (List Part)
  | .repeatable inner depth :: before =>
    return .repeatable (.repetition inner bounds.least bounds.most) (depth + 1) :: before
  | _ => failure

private def changeFlag? (flags : PatternFlags) (value : Bool) :
    Char → Option PatternFlags
  | 'i' => some { flags with ignoreCase := value }
  | 'm' => some { flags with multiLine := value }
  | 's' => some { flags with dotAll := value }
  | 'R' => some { flags with carriage := value }
  | 'x' => some { flags with spacious := value }
  | 'u' => some { flags with ascii := !value }
  | 'U' => some flags
  | _ => none

/-- Apply the letters of a flag group. No letter may occur twice; a hyphen, after
which flags are cleared, occurs at most once and not at the end. -/
private def applyFlags? (flags : PatternFlags) (letters : List Char) : Option PatternFlags :=
  let (raised, cleared) := letters.span (· != '-')
  let lowered := cleared.tail
  if cleared = ['-'] ∨ ¬ (raised ++ lowered).Nodup then none
  else do
    let flags ← raised.foldlM (fun flags letter => changeFlag? flags true letter) flags
    lowered.foldlM (fun flags letter => changeFlag? flags false letter) flags

/-- The characters of a group name, of which the first is of fewer kinds. -/
private def isNameChar (isFirst : Bool) (char : Char) : Bool :=
  char = '_' || Text.isLetter char || !isFirst &&
    (char = '.' || char = '[' || char = ']' || Text.isDecimalDigit char || Text.isOtherNumber char)

/-- Read the name of a group and its closing angle bracket. -/
private def readName : PatternReading Unit := do
  let rest ← remaining
  let name := rest.takeWhile (· != '>')
  match name with
  | [] => failure
  | first :: others =>
    if isNameChar true first ∧ others.all (isNameChar false) ∧ name ∉ (← get).names then
      continueAt (rest.drop name.length)
      expect '>'
      modify fun source => { source with names := name :: source.names }
    else failure

/-- What an opening parenthesis starts. -/
private inductive Opening where
  | group (captures : Bool)
  | flags

/-- Read an opening parenthesis and what tells the kind of its group. The flags that
it sets are in force afterwards. -/
private def readOpening : PatternReading Opening := do
  continueBehindGap (← remaining).tail
  match ← remaining with
  | '?' :: 'P' :: '<' :: rest =>
    continueAt rest
    readName
    return .group true
  | '?' :: '=' :: _ => failure
  | '?' :: '!' :: _ => failure
  | '?' :: '<' :: '=' :: _ => failure
  | '?' :: '<' :: '!' :: _ => failure
  | '?' :: '<' :: rest =>
    continueAt rest
    readName
    return .group true
  | '?' :: rest =>
    let (letters, after) := rest.span fun char => char != ':' && char != ')'
    match applyFlags? (← currentFlags) letters, after with
    | some flags, ':' :: rest =>
      setFlags flags
      continueAt rest
      return .group false
    | some flags, ')' :: rest =>
      if letters = [] then failure
      setFlags flags
      continueAt rest
      return .flags
    | _, _ => failure
  | _ => return .group true

/-- Read branches up to a closing parenthesis or the end of the text, which is left
to be read. The budget bounds the steps of reading. -/
private def readBranches (budget : Nat) (branches : List Draft) (parts : List Part) :
    PatternReading Draft := do
  match budget with
  | 0 => failure
  | budget + 1 =>
    skipSpace
    match ← remaining with
    | [] => return Draft.ofBranches (Draft.ofParts parts :: branches)
    | ')' :: _ => return Draft.ofBranches (Draft.ofParts parts :: branches)
    | '|' :: rest =>
      continueAt rest
      readBranches budget (Draft.ofParts parts :: branches) []
    | '(' :: _ =>
      let outside ← currentFlags
      match ← readOpening with
      | .flags => readBranches budget branches (.flags :: parts)
      | .group captures =>
        let inner ← readBranches budget [] []
        expect ')'
        setFlags outside
        let group := .group captures inner.pattern
        readBranches budget branches (.repeatable group (inner.depth + 1) :: parts)
    | '[' :: rest =>
      let item ← PatternClass.readClass (2 * rest.length + 2)
      readBranches budget branches (.repeatable (one item.set) item.depth :: parts)
    | char :: _ =>
      if char = '*' ∨ char = '+' ∨ char = '?' ∨ char = '\x7b' then
        let bounds ← readRepetition char
        readBranches budget branches (← repeatLast bounds parts)
      else
        let pattern ← readPrimitivePattern
        readBranches budget branches (.repeatable pattern 0 :: parts)

/-- Read a pattern up to the end of the text. -/
def readWhole (length : Nat) : PatternReading Pattern := do
  let draft ← readBranches (2 * length + 2) [] []
  if (← remaining).isEmpty ∧ draft.depth ≤ maxDepth then return draft.pattern else failure

end PatternReader

/-- The pattern that a text describes. -/
def Pattern.read? (text : String) : Option Pattern :=
  (PatternReader.readWhole text.length |>.run' ⟨text.toList, {}, []⟩).filter Pattern.isBuildable

end JsonQuery
