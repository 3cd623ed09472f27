import JsonQuery.Query.Parse

/-! The grammar of selectors over tokens, stated without the reader. Conjunction binds
tighter than disjunction, both associate to the left, and a chain may be empty. -/

namespace JsonQuery

namespace Token

def filter? : Token → Option Filter
  | filter text => some (Filter.read text.toList)
  | _ => none

def slice? : Token → Option Slice
  | slice value => some value
  | _ => none

/-- What may stand between a wildcard and the next segment. -/
def followsWildcard : Token → Bool
  | dot | filter _ => true
  | _ => false

/-- What may stand between a property and the next segment. -/
def followsProperty : Token → Bool
  | dot | filter _ | slice _ => true
  | _ => false

def inChain : Token → Bool
  | dot | filter _ | slice _ | property _ | wildcard | deepWildcard => true
  | _ => false

end Token

def Connective.token : Connective → Token
  | both => .both
  | either => .either

def lastFilter (tokens : List Token) : Option Filter := (tokens.filterMap Token.filter?).getLast?

def lastSlice (tokens : List Token) : Option Slice := (tokens.filterMap Token.slice?).getLast?

/-- A token that starts a segment, with all tokens up to the next one that does. The
segment carries the last filter and the last slice of them. -/
inductive SegmentRun : List Token → Segment → Prop where
  | property {after : List Token} (name : String)
      (follow : ∀ token ∈ after, token.followsProperty = true) :
      SegmentRun (.property name :: after) (.property name (lastFilter after) (lastSlice after))
  | wildcard {after : List Token} (follow : ∀ token ∈ after, token.followsWildcard = true) :
      SegmentRun (.wildcard :: after) (.wildcard (lastFilter after))
  | deepWildcard {after : List Token} (follow : ∀ token ∈ after, token.followsWildcard = true) :
      SegmentRun (.deepWildcard :: after) (.deepWildcard (lastFilter after))

/-- The tokens of a chain: points, and then one run for each segment. So no filter comes
before the first segment, and a slice is preceded by a property. -/
inductive ChainRun : List Token → Chain → Prop where
  | dots {tokens : List Token} (dots : ∀ token ∈ tokens, token = .dot) : ChainRun tokens []
  | segment {before after : List Token} {chain : Chain} {segment : Segment}
      (first : ChainRun before chain) (last : SegmentRun after segment) :
      ChainRun (before ++ after) (chain ++ [segment])

theorem SegmentRun.inChain {tokens : List Token} {segment : Segment}
    (run : SegmentRun tokens segment) : ∀ token ∈ tokens, token.inChain = true := by
  have ofProperty {token : Token} (follows : token.followsProperty = true) :
      token.inChain = true := by
    cases token <;> first | rfl | cases follows
  have ofWildcard {token : Token} (follows : token.followsWildcard = true) :
      token.inChain = true := by
    cases token <;> first | rfl | cases follows
  cases run with
  | property name follow =>
    exact List.forall_mem_cons.mpr ⟨rfl, fun token member => ofProperty (follow token member)⟩
  | wildcard follow | deepWildcard follow =>
    exact List.forall_mem_cons.mpr ⟨rfl, fun token member => ofWildcard (follow token member)⟩

theorem ChainRun.inChain {tokens : List Token} {chain : Chain} (run : ChainRun tokens chain) :
    ∀ token ∈ tokens, token.inChain = true := by
  induction run with
  | dots dots =>
    intro token member
    rw [dots token member]
    rfl
  | segment first last ih =>
    intro token member
    rcases List.mem_append.mp member with earlier | later
    · exact ih token earlier
    · exact last.inChain token later

/-- The kinds of phrases, from the tightest to the loosest. -/
inductive Phrase where
  | operand
  | conjunction
  | disjunction

/-- A sequence of tokens is a phrase that stands for an expression. The number says how
many groups and negations enclose the innermost chain. -/
inductive Derives : Phrase → List Token → Expression → Nat → Prop where
  | chain {tokens : List Token} {segments : Chain} (run : ChainRun tokens segments) :
      Derives .operand tokens (.chain segments) 0
  | negation {tokens : List Token} {operand : Expression} {depth : Nat}
      (inner : Derives .operand tokens operand depth) :
      Derives .operand (.negation :: tokens) (.negation operand) (depth + 1)
  | group {tokens : List Token} {expression : Expression} {depth : Nat}
      (inner : Derives .disjunction tokens expression depth) :
      Derives .operand (.opening :: (tokens ++ [.closing])) expression (depth + 1)
  | single {tokens : List Token} {expression : Expression} {depth : Nat}
      (only : Derives .operand tokens expression depth) :
      Derives .conjunction tokens expression depth
  | both {before after : List Token} {left right : Expression} {leftDepth rightDepth : Nat}
      (first : Derives .conjunction before left leftDepth)
      (second : Derives .operand after right rightDepth) :
      Derives .conjunction (before ++ .both :: after) (.joined .both left right)
        (max leftDepth rightDepth)
  | conjunction {tokens : List Token} {expression : Expression} {depth : Nat}
      (only : Derives .conjunction tokens expression depth) :
      Derives .disjunction tokens expression depth
  | either {before after : List Token} {left right : Expression} {leftDepth rightDepth : Nat}
      (first : Derives .disjunction before left leftDepth)
      (second : Derives .conjunction after right rightDepth) :
      Derives .disjunction (before ++ .either :: after) (.joined .either left right)
        (max leftDepth rightDepth)

end JsonQuery
