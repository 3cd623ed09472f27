import JsonQuery.Proofs.Query.Completeness
import Mathlib.Data.List.DropRight
import Mathlib.Order.MinMax

/-! How deep groups and negations nest in a sequence of tokens, counted token by token and
without a derivation. The reader refuses a derived sequence exactly where this depth or the
height of the tree exceeds the limit. -/

namespace JsonQuery

namespace Token

/-- The token opens a group or negates an operand. -/
def enters : Token → Bool
  | opening | negation => true
  | _ => false

def negates : Token → Bool
  | negation => true
  | _ => false

/-- The groups and negations that enclose what follows a token, the innermost first, given
those that enclose the token. A connective ends the operands of the negations right around
it. A closing parenthesis ends these as well, then its group, and then the negations whose
operand is the group. -/
def around (stack : List Token) : Token → List Token
  | opening => opening :: stack
  | negation => negation :: stack
  | closing => ((stack.dropWhile negates).drop 1).dropWhile negates
  | both | either => stack.dropWhile negates
  | _ => stack

/-- The number of groups and negations that enclose what follows some tokens. -/
def enclosing (before : List Token) : Nat := (before.foldl around []).length

/-- The greatest number of groups and negations around any place, given those around the
first one. -/
def deepest (stack : List Token) : List Token → Nat
  | [] => stack.length
  | token :: rest => max stack.length (deepest (around stack token) rest)

/-- How deep groups and negations nest in a sequence of tokens. -/
def nestingDepth (tokens : List Token) : Nat := deepest [] tokens

/-- A group ends with the negations of the group, and a connective ends the innermost one. -/
example : enclosing [negation, negation, opening, negation, property "a"] = 4 ∧
    enclosing [negation, negation, opening, negation, property "a", both] = 3 ∧
    enclosing [negation, negation, opening, negation, property "a", closing] = 0 := by decide

variable {stack tokens : List Token} {token : Token}

theorem length_around_of_enters (enters : token.enters = true) (stack : List Token) :
    (around stack token).length = stack.length + 1 := by
  cases token <;> first | rfl | cases enters

theorem length_around_le (other : token.enters = false) (stack : List Token) :
    (around stack token).length ≤ stack.length := by
  have shorter (stack : List Token) : (stack.dropWhile negates).length ≤ stack.length :=
    (List.dropWhile_suffix negates).length_le
  cases token with
  | opening | negation => cases other
  | closing =>
    calc (((stack.dropWhile negates).drop 1).dropWhile negates).length
        ≤ ((stack.dropWhile negates).drop 1).length := shorter _
      _ ≤ (stack.dropWhile negates).length := (List.drop_suffix 1 _).length_le
      _ ≤ stack.length := shorter stack
  | both | either => exact shorter stack
  | dot | wildcard | deepWildcard | filter | slice | property => exact Nat.le_refl _

theorem length_le_deepest (stack tokens : List Token) : stack.length ≤ deepest stack tokens := by
  cases tokens with
  | nil => exact Nat.le_refl _
  | cons token rest => exact Nat.le_max_left _ _

theorem deepest_append (stack tokens more : List Token) :
    deepest stack (tokens ++ more) =
      max (deepest stack tokens) (deepest (tokens.foldl around stack) more) := by
  induction tokens generalizing stack with
  | nil => exact (Nat.max_eq_right (length_le_deepest stack more)).symm
  | cons token rest ih => rw [List.cons_append, deepest, ih, deepest, List.foldl_cons, Nat.max_assoc]

theorem deepest_concat (other : token.enters = false) (stack tokens : List Token) :
    deepest stack (tokens ++ [token]) = deepest stack tokens := by
  have here : deepest stack tokens =
      max (deepest stack tokens) (tokens.foldl around stack).length := by
    have whole := deepest_append stack tokens []
    rwa [List.append_nil] at whole
  have less := length_around_le other (tokens.foldl around stack)
  rw [deepest_append, deepest, deepest, Nat.max_eq_left less]
  exact here.symm

theorem lt_deepest_iff {limit : Nat} (start : stack.length ≤ limit) :
    limit < deepest stack tokens ↔ ∃ before token after, tokens = before ++ token :: after ∧
      token.enters = true ∧ limit ≤ (before.foldl around stack).length := by
  induction tokens generalizing stack with
  | nil => simpa [deepest] using start
  | cons token rest ih =>
    have later : limit < deepest stack (token :: rest) ↔ limit < deepest (around stack token) rest :=
      lt_max_iff.trans (or_iff_right (Nat.not_lt.mpr start))
    rw [later]
    by_cases within : (around stack token).length ≤ limit
    · rw [ih within]
      constructor
      · rintro ⟨before, inner, after, rfl, enters, deep⟩
        exact ⟨token :: before, inner, after, rfl, enters, deep⟩
      · rintro ⟨before, inner, after, split, enters, deep⟩
        cases before with
        | nil =>
          obtain ⟨rfl, -⟩ := List.cons.inj split
          have deeper := length_around_of_enters enters stack
          rw [List.foldl_nil] at deep
          omega
        | cons first before =>
          obtain ⟨rfl, rfl⟩ := List.cons.inj split
          exact ⟨before, inner, after, rfl, enters, deep⟩
    · -- The limit is exceeded behind this token, so that it is this token which enters.
      have exceeded := length_le_deepest (around stack token) rest
      refine iff_of_true (by omega) ?_
      cases enters : token.enters with
      | true =>
        have deeper := length_around_of_enters enters stack
        exact ⟨[], token, rest, rfl, enters, by rw [List.foldl_nil]; omega⟩
      | false =>
        have same := length_around_le enters stack
        omega

/-- The tokens nest to a depth, and behind them the same groups and negations are open as
before, except that the operands of the negations right around them may have ended or not. -/
structure Nests (stack tokens : List Token) (depth : Nat) : Prop where
  unwound : (tokens.foldl around stack).dropWhile negates = stack.dropWhile negates
  deep : deepest stack tokens = stack.length + depth

namespace Nests

variable {more : List Token} {depth moreDepth : Nat}

theorem of_inChain (inside : ∀ token ∈ tokens, token.inChain = true) (stack : List Token) :
    Nests stack tokens 0 := by
  induction tokens with
  | nil => exact ⟨rfl, rfl⟩
  | cons token rest ih =>
    obtain ⟨first, later⟩ := List.forall_mem_cons.mp inside
    have same : around stack token = stack := by
      cases token <;> first | rfl | cases first
    obtain ⟨unwound, deep⟩ := ih later
    constructor
    · rw [List.foldl_cons, same, unwound]
    · rw [deepest, same, deep, Nat.add_zero, Nat.max_self]

theorem negated (inner : Nests (.negation :: stack) tokens depth) :
    Nests stack (.negation :: tokens) (depth + 1) where
  unwound := inner.unwound
  deep := by
    have deep := inner.deep
    rw [List.length_cons] at deep
    rw [deepest, around, deep]
    omega

theorem grouped (inner : Nests (.opening :: stack) tokens depth) :
    Nests stack (.opening :: (tokens ++ [.closing])) (depth + 1) where
  unwound := by
    have left : (tokens.foldl around (.opening :: stack)).dropWhile negates = .opening :: stack :=
      inner.unwound
    rw [List.foldl_cons, List.foldl_append, List.foldl_cons, List.foldl_nil, around, around, left]
    exact List.dropWhile_idempotent _ _
  deep := by
    have deep := inner.deep
    rw [List.length_cons] at deep
    rw [deepest, deepest_concat rfl, around, deep]
    omega

/-- A connective is reached with no operand of a negation open before it. -/
theorem joined (settled : stack.dropWhile negates = stack) (connective : Connective)
    (first : Nests stack tokens depth) (second : Nests stack more moreDepth) :
    Nests stack (tokens ++ connective.token :: more) (max depth moreDepth) := by
  have between : (tokens ++ [connective.token]).foldl around stack = stack := by
    have unwound := first.unwound
    rw [settled] at unwound
    rw [List.foldl_append]
    cases connective <;> exact unwound
  have other : connective.token.enters = false := by cases connective <;> rfl
  rw [List.append_cons]
  constructor
  · rw [List.foldl_append, between, second.unwound]
  · rw [deepest_append, between, deepest_concat other, first.deep, second.deep]
    omega

end Nests

end Token

/-- A phrase nests as deep as its derivation says. A conjunction or disjunction starts where
no operand of a negation is open. -/
theorem Derives.nests {phrase : Phrase} {tokens : List Token} {expression : Expression}
    {depth : Nat} (derives : Derives phrase tokens expression depth) (stack : List Token)
    (settled : phrase = .operand ∨ stack.dropWhile Token.negates = stack) :
    Token.Nests stack tokens depth := by
  induction derives generalizing stack with
  | chain run => exact .of_inChain run.inChain stack
  | negation inner ih => exact (ih _ (.inl rfl)).negated
  | group inner ih => exact (ih _ (.inr rfl)).grouped
  | single only ih => exact ih stack (.inl rfl)
  | both first second firstIh secondIh =>
    have unnegated := settled.resolve_left Phrase.noConfusion
    exact (firstIh stack (.inr unnegated)).joined unnegated .both (secondIh stack (.inl rfl))
  | conjunction only ih => exact ih stack (.inr (settled.resolve_left Phrase.noConfusion))
  | either first second firstIh secondIh =>
    have unnegated := settled.resolve_left Phrase.noConfusion
    exact (firstIh stack (.inr unnegated)).joined unnegated .either
      (secondIh stack (.inr unnegated))

theorem Derives.depth_eq {phrase : Phrase} {tokens : List Token} {expression : Expression}
    {depth : Nat} (derives : Derives phrase tokens expression depth) :
    depth = Token.nestingDepth tokens := by
  have deep := (derives.nests [] (.inr rfl)).deep
  rw [Token.nestingDepth, deep, List.length_nil, Nat.zero_add]

/-- What is read is at most as high as the limit. A derived sequence of tokens is refused for
its nesting exactly if some group or negation in it starts within as many others as the limit
says, or if its tree is higher than the limit, and else it is read. -/
theorem Expression.nesting_limit (tokens : List Token) :
    (∀ expression, ofTokens tokens = .ok expression → expression.height ≤ 256) ∧
      ∀ expression depth, Derives .disjunction tokens expression depth →
        ((∃ position, ofTokens tokens = .error ⟨.nestingTooDeep, position⟩) ↔
          (∃ before token after, tokens = before ++ token :: after ∧ token.enters = true ∧
            256 ≤ Token.enclosing before) ∨ 256 < expression.height) ∧
        ((¬ ∃ position, ofTokens tokens = .error ⟨.nestingTooDeep, position⟩) →
          ofTokens tokens = .ok expression) := by
  constructor
  · intro expression read
    obtain ⟨_, _, _, fits⟩ := ofTokens_sound read
    exact fits
  · intro expression depth derives
    have settles := ofTokens_settles derives
    have exceeded : maxNesting < depth ↔ ∃ before token after, tokens = before ++ token :: after ∧
        token.enters = true ∧ maxNesting ≤ Token.enclosing before := by
      rw [derives.depth_eq]
      exact Token.lt_deepest_iff (Nat.zero_le _)
    have beyond : (maxNesting < depth ∨ maxNesting < expression.height) ↔
        ¬ (depth ≤ maxNesting ∧ expression.height ≤ maxNesting) := by
      omega
    change ((_ ↔ (∃ before token after, tokens = before ++ token :: after ∧
      token.enters = true ∧ maxNesting ≤ Token.enclosing before) ∨
        maxNesting < expression.height) ∧ _)
    rw [← exceeded, beyond]
    by_cases within : depth ≤ maxNesting ∧ expression.height ≤ maxNesting
    · have read := settles.1 within
      refine ⟨iff_of_false ?_ (not_not_intro within), fun _ => read⟩
      rintro ⟨position, refused⟩
      rw [read] at refused
      cases refused
    · have refused := settles.2 within
      exact ⟨iff_of_true refused within, fun accepted => absurd refused accepted⟩

theorem Derives.groups (count : Nat) :
    Derives .operand (List.replicate count .opening ++ List.replicate count .closing)
      (.chain []) count := by
  induction count with
  | zero => exact .chain (.dots (List.forall_mem_nil _))
  | succ count ih =>
    have outer := Derives.group (.conjunction (.single ih))
    rwa [List.append_assoc, ← List.replicate_succ', ← List.cons_append,
      ← List.replicate_succ] at outer

/-- One group too many around an empty chain. -/
theorem Expression.nesting_limit_groups :
    Derives .disjunction (List.replicate 257 .opening ++ List.replicate 257 .closing)
        (.chain []) 257 ∧
      ∃ position, ofTokens (List.replicate 257 .opening ++ List.replicate 257 .closing) =
        .error ⟨.nestingTooDeep, position⟩ := by
  have derives := Derives.conjunction (.single (Derives.groups 257))
  have split : List.replicate 257 Token.opening ++ List.replicate 257 Token.closing =
      List.replicate 256 Token.opening ++ Token.opening :: List.replicate 257 Token.closing := by
    rw [List.append_cons, ← List.replicate_succ']
  have deep : 256 ≤ Token.enclosing (List.replicate 256 .opening) := by decide +kernel
  exact ⟨derives, ((nesting_limit _).2 _ _ derives).1.mpr (.inl ⟨_, _, _, split, rfl, deep⟩)⟩

end JsonQuery
