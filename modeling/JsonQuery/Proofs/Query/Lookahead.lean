import JsonQuery.Proofs.Query.Nesting

/-! The reader of expressions looks one token ahead. What it reads up to a place depends on the
tokens before the place and on the token there, and not on those behind it; and where it stops, it
would also have stopped at the end of the tokens. -/

namespace JsonQuery

/-- Some tokens start with the same token as others do, or there are none. -/
def StartsAlike (other rest : List Token) : Prop := other = [] ∨ other.head? = rest.head?

theorem StartsAlike.refl (rest : List Token) : StartsAlike rest rest := .inr rfl

theorem StartsAlike.behind {other rest : List Token} (alike : StartsAlike other rest)
    (taken : List Token) : StartsAlike (taken ++ other) (taken ++ rest) := by
  cases taken with
  | nil => exact alike
  | cons token taken => exact .inr rfl

theorem StartsAlike.forall_head {other rest : List Token} {property : Token → Prop}
    (alike : StartsAlike other rest) (holds : ∀ token ∈ rest.head?, property token) :
    ∀ token ∈ other.head?, property token := by
  rcases alike with rfl | same
  · exact fun token none => nomatch none
  · rwa [same]

/-- The tokens at the place of a fault that a reader finds begin with the one to blame. A fault of
nesting blames none, and it is not readers that find a token unexpected. -/
def Fault.StandsAt (fault : Fault) (rest : List Token) : Prop :=
  match fault with
  | filterWithoutSegment => ∃ text, rest.head? = some (.filter text)
  | sliceWithoutProperty => ∃ value, rest.head? = some (.slice value)
  | unclosedGroup => rest.head? = some .opening
  | unexpectedToken => False
  | nestingTooDeep => True

/-- The fault is found at the token to blame, so that nothing behind it matters. -/
def Fault.isImmediate : Fault → Bool
  | filterWithoutSegment | sliceWithoutProperty | unexpectedToken => true
  | unclosedGroup | nestingTooDeep => false

namespace Parse

section LooksAhead

variable {α β : Type} {cursor : Cursor}

/-- What a computation does at a cursor depends on the tokens that it takes and on the next one, as
far as there is a next one: with other tokens behind these it does the same. -/
structure LooksAhead (run : Cursor → Except ParseError (α × Cursor)) (cursor : Cursor) : Prop where
  done : ∀ {result next}, run cursor = .ok (result, next) → ∃ taken, cursor.Takes taken next ∧
    ∀ other, StartsAlike other next.rest →
      run ⟨cursor.position, taken ++ other⟩ = .ok (result, ⟨next.position, other⟩)
  refused : ∀ {fault place}, run cursor = .error ⟨fault, place⟩ →
    ∃ taken rest, cursor.Takes taken ⟨place, rest⟩ ∧ fault.StandsAt rest ∧
      (fault.isImmediate = true → ∀ other, other.head? = rest.head? →
        run ⟨cursor.position, taken ++ other⟩ = .error ⟨fault, place⟩)

namespace LooksAhead

variable {run inner : Cursor → Except ParseError (α × Cursor)}
  {more : α → Cursor → Except ParseError (β × Cursor)}

theorem of_ok {taken : List Token} {result : α} {next : Cursor} (takes : cursor.Takes taken next)
    (again : ∀ other, StartsAlike other next.rest →
      run ⟨cursor.position, taken ++ other⟩ = .ok (result, ⟨next.position, other⟩)) :
    LooksAhead run cursor := by
  have finished : run cursor = .ok (result, next) := by
    have same := again next.rest (.refl _)
    rwa [← takes.1] at same
  constructor
  · intro other last finishedToo
    obtain ⟨rfl, rfl⟩ := Prod.mk.inj (Except.ok.inj (finished.symm.trans finishedToo))
    exact ⟨taken, takes, again⟩
  · intro fault place failed
    cases finished.symm.trans failed

theorem of_error {taken rest : List Token} {fault : Fault} {place : Nat}
    (takes : cursor.Takes taken ⟨place, rest⟩) (failed : run cursor = .error ⟨fault, place⟩)
    (stands : fault.StandsAt rest)
    (again : fault.isImmediate = true → ∀ other, other.head? = rest.head? →
      run ⟨cursor.position, taken ++ other⟩ = .error ⟨fault, place⟩) : LooksAhead run cursor := by
  constructor
  · intro result next finished
    cases failed.symm.trans finished
  · intro other elsewhere failedToo
    cases failed.symm.trans failedToo
    exact ⟨taken, rest, takes, stands, again⟩

theorem length_le {result : α} {next : Cursor} (looks : LooksAhead run cursor)
    (finished : run cursor = .ok (result, next)) : next.rest.length ≤ cursor.rest.length := by
  obtain ⟨taken, takes, _⟩ := looks.done finished
  rw [takes.1, List.length_append]
  exact Nat.le_add_left _ _

theorem pure (value : α) (cursor : Cursor) :
    LooksAhead (fun cursor => .ok (value, cursor)) cursor :=
  .of_ok (.nothing cursor) fun _ _ => rfl

/-- A computation that takes nothing before it finds nesting too deep. -/
theorem tooDeep (failed : run cursor = .error ⟨.nestingTooDeep, cursor.position⟩) :
    LooksAhead run cursor :=
  .of_error (.nothing cursor) failed trivial fun immediate => nomatch immediate

theorem congr (looks : LooksAhead inner cursor)
    (same : ∀ other, StartsAlike other cursor.rest →
      run ⟨cursor.position, other⟩ = inner ⟨cursor.position, other⟩) : LooksAhead run cursor where
  done {result next} finished := by
    rw [same cursor.rest (.refl _)] at finished
    obtain ⟨taken, takes, again⟩ := looks.done finished
    refine ⟨taken, takes, fun other alike => ?_⟩
    rw [same _ (takes.1 ▸ alike.behind taken), again other alike]
  refused {fault place} failed := by
    rw [same cursor.rest (.refl _)] at failed
    obtain ⟨taken, rest, takes, stands, again⟩ := looks.refused failed
    refine ⟨taken, rest, takes, stands, fun immediate other alike => ?_⟩
    have behind : StartsAlike other rest := .inr alike
    rw [same _ (takes.1 ▸ behind.behind taken), again immediate other alike]

/-- A computation that takes a token and goes on with another one. -/
theorem token {position : Nat} {first : Token} {rest : List Token}
    (looks : LooksAhead inner ⟨position + 1, rest⟩)
    (same : ∀ other, run ⟨position, first :: other⟩ = inner ⟨position + 1, other⟩) :
    LooksAhead run ⟨position, first :: rest⟩ where
  done {result next} finished := by
    rw [same] at finished
    obtain ⟨taken, takes, again⟩ := looks.done finished
    have sign := Cursor.Takes.one position first rest
    refine ⟨first :: taken, sign.append takes, fun other alike => ?_⟩
    exact (same _).trans (again other alike)
  refused {fault place} failed := by
    rw [same] at failed
    obtain ⟨taken, behind, takes, stands, again⟩ := looks.refused failed
    have sign := Cursor.Takes.one position first rest
    refine ⟨first :: taken, behind, sign.append takes, stands, fun immediate other alike => ?_⟩
    exact (same _).trans (again immediate other alike)

/-- One computation behind another. The token behind the first one is the first that the second one
takes, or else the one that it looks at. -/
theorem bind (looks : LooksAhead run cursor)
    (looksMore : ∀ {value middle}, run cursor = .ok (value, middle) →
      LooksAhead (more value) middle) :
    LooksAhead (fun cursor => do
      let (value, middle) ← run cursor
      more value middle) cursor where
  done {result next} finished := by
    obtain ⟨⟨value, middle⟩, first, second⟩ := ok_of_bind finished
    obtain ⟨taken, takes, again⟩ := looks.done first
    obtain ⟨takenMore, takesMore, againMore⟩ := (looksMore first).done second
    refine ⟨taken ++ takenMore, takes.append takesMore, fun other alike => ?_⟩
    have repeated := again (takenMore ++ other) (takesMore.1 ▸ alike.behind takenMore)
    rw [List.append_assoc, repeated]
    exact againMore other alike
  refused {fault place} failed := by
    cases first : run cursor with
    | error fault =>
      rw [first] at failed
      cases failed
      obtain ⟨taken, rest, takes, stands, again⟩ := looks.refused first
      refine ⟨taken, rest, takes, stands, fun immediate other alike => ?_⟩
      rw [again immediate other alike]
      rfl
    | ok outcome =>
      obtain ⟨value, middle⟩ := outcome
      rw [first] at failed
      obtain ⟨taken, takes, again⟩ := looks.done first
      obtain ⟨takenMore, rest, takesMore, stands, againMore⟩ := (looksMore first).refused failed
      refine ⟨taken ++ takenMore, rest, takes.append takesMore, stands, ?_⟩
      intro immediate other alike
      have behind : StartsAlike other rest := .inr alike
      have repeated := again (takenMore ++ other) (takesMore.1 ▸ behind.behind takenMore)
      rw [List.append_assoc, repeated]
      exact againMore immediate other alike

end LooksAhead

end LooksAhead

section Checks

variable {α β : Type}

/-- A check has one result wherever it is made, or it finds nesting too deep there. -/
def Checks (check : Nat → Except ParseError α) : Prop :=
  (∃ value, ∀ position, check position = .ok value) ∨
    ∀ position, check position = .error ⟨.nestingTooDeep, position⟩

theorem Checks.pure (value : α) : Checks fun _ => .ok value :=
  .inl ⟨value, fun _ => rfl⟩

theorem Checks.bind {check : Nat → Except ParseError α} {more : α → Nat → Except ParseError β}
    (first : Checks check) (second : ∀ value, Checks (more value)) :
    Checks (fun position => do
      let value ← check position
      more value position) := by
  rcases first with ⟨value, passes⟩ | fails
  · simp only [passes]
    exact second value
  · refine .inr fun position => ?_
    simp only [fails]
    rfl

theorem checks_measured (expression : Expression) (height : Nat) :
    Checks fun position => measured position expression height := by
  unfold measured
  by_cases high : maxNesting < height
  · exact .inr fun _ => if_pos high
  · exact .inl ⟨_, fun _ => if_neg high⟩

theorem checks_conjunctions (first : Measured) (rest : List (Connective × Measured)) :
    Checks fun position => conjunctions position first rest := by
  induction rest generalizing first with
  | nil => exact .pure _
  | cons operand rest ih =>
    obtain ⟨connective, right⟩ := operand
    cases connective with
    | both => exact (checks_measured _ _).bind fun joined => ih joined
    | either => exact (ih right).bind fun _ => .pure _

theorem checks_combine (first : Measured) (rest : List (Connective × Measured)) :
    Checks fun position => combine position first rest := by
  have disjoined (left : Measured) (others : List Measured) :
      Checks fun position => others.foldlM (join position .either) left := by
    induction others generalizing left with
    | nil => exact .pure _
    | cons next others ih =>
      simp only [List.foldlM_cons]
      exact (checks_measured _ _).bind ih
  simp only [combine_eq]
  exact (checks_conjunctions first rest).bind fun parts => disjoined parts.1 parts.2

/-- A check takes no token and looks at none. -/
theorem Checks.looksAhead {check : Nat → Except ParseError α} (checks : Checks check)
    (cursor : Cursor) :
    LooksAhead (fun cursor => do return (← check cursor.position, cursor)) cursor := by
  rcases checks with ⟨value, passes⟩ | fails
  · simp only [passes]
    exact .pure value cursor
  · refine .tooDeep ?_
    rw [fails]
    rfl

end Checks

private theorem looksAhead_ended {tokens : List Token} (ended : EndsChain tokens) (position : Nat)
    (done : Chain) :
    LooksAhead (fun cursor => readSegments cursor.position done cursor.rest) ⟨position, tokens⟩ :=
  (LooksAhead.pure done.reverse _).congr fun _ alike =>
    readSegments_ended (alike.forall_head ended)

/-- A token without the segment that it needs is refused where it stands. -/
private theorem looksAhead_refused {token : Token} {rest : List Token} {position : Nat}
    {done : Chain} (fault : Fault) (stands : fault.StandsAt (token :: rest))
    (refuses : ∀ other, readSegments position done (token :: other) = .error ⟨fault, position⟩) :
    LooksAhead (fun cursor => readSegments cursor.position done cursor.rest)
      ⟨position, token :: rest⟩ := by
  refine .of_error (.nothing _) (refuses rest) stands fun _ other alike => ?_
  obtain ⟨others, rfl⟩ := List.head?_eq_some_iff.mp alike
  exact refuses others

theorem looksAhead_readSegments (tokens : List Token) (position : Nat) (done : Chain) :
    LooksAhead (fun cursor => readSegments cursor.position done cursor.rest) ⟨position, tokens⟩ := by
  induction tokens generalizing position done with
  | nil => exact looksAhead_ended (fun _ first => by cases first) position done
  | cons token rest ih =>
    cases token with
    | opening | closing | both | either | negation =>
      refine looksAhead_ended (fun token first => ?_) position done
      obtain rfl := Option.some.inj first
      rfl
    | dot | property | wildcard | deepWildcard => exact (ih _ _).token fun _ => rfl
    | filter text =>
      cases done with
      | nil => exact looksAhead_refused .filterWithoutSegment ⟨text, rfl⟩ fun _ => rfl
      | cons last before => exact (ih _ _).token fun _ => rfl
    | slice value =>
      cases done with
      | nil => exact looksAhead_refused .sliceWithoutProperty ⟨value, rfl⟩ fun _ => rfl
      | cons last before =>
        cases last with
        | property name filter held => exact (ih _ _).token fun _ => rfl
        | wildcard | deepWildcard =>
          exact looksAhead_refused .sliceWithoutProperty ⟨value, rfl⟩ fun _ => rfl

theorem looksAhead_readChain (cursor : Cursor) : LooksAhead readChain cursor :=
  ((looksAhead_readSegments cursor.rest cursor.position []).bind fun {segments next} _ =>
    .pure (⟨.chain segments, 1⟩ : Measured) next).congr fun _ _ => rfl

section Readers

variable {operand : Reader}

/-- The operands behind a first one; there are no more of them than tokens. -/
def readOthers (operand : Reader) (cursor : Cursor) :
    Except ParseError (List (Connective × Measured) × Cursor) :=
  readOperands operand cursor.rest.length cursor

theorem connective?_eq_none_iff {tokens : List Token} :
    connective? tokens = none ↔ ∀ token ∈ tokens.head?, token ≠ .both ∧ token ≠ .either := by
  cases tokens with
  | nil => simp [connective?]
  | cons token rest => cases token <;> simp [connective?]

theorem readOperands_of_none (operand : Reader) (rounds : Nat) {cursor : Cursor}
    (none : connective? cursor.rest = none) :
    readOperands operand rounds cursor = .ok ([], cursor) := by
  unfold readOperands
  rw [none]

/-- More rounds than tokens make no difference. -/
theorem readOperands_congr (looks : ∀ cursor, LooksAhead operand cursor) {rounds others : Nat}
    {cursor : Cursor} (enough : cursor.rest.length ≤ rounds)
    (enoughOthers : cursor.rest.length ≤ others) :
    readOperands operand rounds cursor = readOperands operand others cursor := by
  induction rounds generalizing cursor others with
  | zero =>
    have empty := List.eq_nil_of_length_eq_zero (Nat.le_zero.mp enough)
    have none : connective? cursor.rest = none := by rw [empty]; rfl
    rw [readOperands_of_none operand _ none, readOperands_of_none operand _ none]
  | succ rounds ih =>
    obtain ⟨position, tokens⟩ := cursor
    cases found : connective? tokens with
    | none => rw [readOperands_of_none operand _ found, readOperands_of_none operand _ found]
    | some pair =>
      obtain ⟨connective, rest⟩ := pair
      obtain rfl := connective?_eq_some found
      obtain ⟨others, rfl⟩ := Nat.exists_eq_add_one.mpr
        (Nat.lt_of_lt_of_le (Nat.zero_lt_succ _) enoughOthers)
      rw [readOperands_cons, readOperands_cons]
      cases read : operand ⟨position + 1, rest⟩ with
      | error fault => rfl
      | ok outcome =>
        have shorter := (looks _).length_le read
        have same := ih (Nat.le_trans shorter (Nat.le_of_succ_le_succ enough))
          (Nat.le_trans shorter (Nat.le_of_succ_le_succ enoughOthers))
        change (readOperands operand rounds outcome.2 >>= _) =
          (readOperands operand others outcome.2 >>= _)
        rw [same]

theorem readOthers_cons (looks : ∀ cursor, LooksAhead operand cursor) (position : Nat)
    (connective : Connective) (rest : List Token) :
    readOthers operand ⟨position, connective.token :: rest⟩ = (do
      let (right, next) ← operand ⟨position + 1, rest⟩
      let (others, next) ← readOthers operand next
      return ((connective, right) :: others, next)) := by
  rw [readOthers, List.length_cons, readOperands_cons]
  cases read : operand ⟨position + 1, rest⟩ with
  | error fault => rfl
  | ok outcome =>
    have same := readOperands_congr looks ((looks _).length_le read) (Nat.le_refl _)
    change (readOperands operand rest.length outcome.2 >>= _) =
      (readOperands operand outcome.2.rest.length outcome.2 >>= _)
    rw [same]

theorem connective?_of_readOthers (looks : ∀ cursor, LooksAhead operand cursor)
    {cursor next : Cursor} {others : List (Connective × Measured)}
    (read : readOthers operand cursor = .ok (others, next)) : connective? next.rest = none := by
  induction size : cursor.rest.length using Nat.strongRecOn generalizing cursor others with
  | ind size ih =>
    obtain ⟨position, tokens⟩ := cursor
    cases found : connective? tokens with
    | none =>
      rw [readOthers, readOperands_of_none operand _ found] at read
      cases read
      exact found
    | some pair =>
      obtain ⟨connective, rest⟩ := pair
      obtain rfl := connective?_eq_some found
      rw [readOthers_cons looks] at read
      obtain ⟨⟨right, middle⟩, readRight, read⟩ := ok_of_bind read
      obtain ⟨⟨others, last⟩, readOthers, read⟩ := ok_of_bind read
      cases read
      have shorter := (looks _).length_le readRight
      exact ih _ (size ▸ Nat.lt_succ_of_le shorter) readOthers rfl

theorem looksAhead_readOthers (looks : ∀ cursor, LooksAhead operand cursor) (cursor : Cursor) :
    LooksAhead (readOthers operand) cursor := by
  induction size : cursor.rest.length using Nat.strongRecOn generalizing cursor with
  | ind size ih =>
    obtain ⟨position, tokens⟩ := cursor
    cases found : connective? tokens with
    | none =>
      refine (LooksAhead.pure [] _).congr fun other alike => readOperands_of_none operand _ ?_
      exact connective?_eq_none_iff.mpr (alike.forall_head (connective?_eq_none_iff.mp found))
    | some pair =>
      obtain ⟨connective, rest⟩ := pair
      obtain rfl := connective?_eq_some found
      have later {right : Measured} {middle : Cursor}
          (readRight : operand ⟨position + 1, rest⟩ = .ok (right, middle)) :
          LooksAhead (readOthers operand) middle := by
        have shorter := (looks _).length_le readRight
        exact ih _ (size ▸ Nat.lt_succ_of_le shorter) middle rfl
      have behind := (looks ⟨position + 1, rest⟩).bind fun {right middle} readRight =>
        (later readRight).bind fun {others next} _ =>
          .pure ((connective, right) :: others) next
      exact behind.token fun other => readOthers_cons looks position connective other

theorem looksAhead_readJoined (looks : ∀ cursor, LooksAhead operand cursor) (cursor : Cursor) :
    LooksAhead (readJoined operand) cursor := by
  have whole := (looks cursor).bind fun {first middle} _ =>
    (looksAhead_readOthers looks middle).bind fun {others next} _ =>
      (checks_combine first others).looksAhead next
  exact whole.congr fun _ _ => rfl

/-- A group may find at its end that it was never closed, and then blames its parenthesis. -/
theorem looksAhead_group (looks : ∀ cursor, LooksAhead operand cursor) {run : Reader}
    {position : Nat} (rest : List Token)
    (same : ∀ other, run ⟨position, .opening :: other⟩ =
      readGroup position operand ⟨position + 1, other⟩) :
    LooksAhead run ⟨position, .opening :: rest⟩ := by
  have inside := looksAhead_readJoined looks ⟨position + 1, rest⟩
  have opened := Cursor.Takes.one position .opening rest
  cases read : readJoined operand ⟨position + 1, rest⟩ with
  | error problem =>
    have failed {tokens : List Token}
        (inner : readJoined operand ⟨position + 1, tokens⟩ = .error problem) :
        run ⟨position, .opening :: tokens⟩ = .error problem := by
      rw [same, readGroup, inner]
      rfl
    obtain ⟨taken, behind, takes, stands, again⟩ := inside.refused read
    exact .of_error (opened.append takes) (failed read) stands fun immediate other alike =>
      failed (again immediate other alike)
  | ok outcome =>
    obtain ⟨inner, last⟩ := outcome
    obtain ⟨taken, takes, again⟩ := inside.done read
    by_cases closes : last.rest.head? = some .closing
    · obtain ⟨behind, shape⟩ := List.head?_eq_some_iff.mp closes
      have closed : last.Takes [.closing] ⟨last.position + 1, behind⟩ := ⟨shape, rfl⟩
      have whole (other : List Token) : run ⟨position, .opening :: (taken ++ [.closing] ++ other)⟩ =
          .ok (inner, ⟨last.position + 1, other⟩) := by
        have alike : StartsAlike (.closing :: other) last.rest := .inr closes.symm
        rw [same, readGroup, List.append_assoc, List.singleton_append, again _ alike]
        rfl
      exact .of_ok (opened.append (takes.append closed)) fun other _ => whole other
    · have unclosed : run ⟨position, .opening :: rest⟩ = .error ⟨.unclosedGroup, position⟩ := by
        obtain ⟨place, behind⟩ := last
        rw [same, readGroup, read]
        cases behind with
        | nil => rfl
        | cons token behind =>
          cases token with
          | closing => exact absurd rfl closes
          | negation | opening | dot | both | either | wildcard | deepWildcard | filter | slice |
            property => rfl
      exact .of_error (.nothing _) unclosed rfl fun immediate => nomatch immediate

theorem looksAhead_negation (looks : ∀ cursor, LooksAhead operand cursor) (cursor : Cursor) :
    LooksAhead (readNegation operand) cursor := by
  have whole := (looks cursor).bind fun {inner next} _ =>
    (checks_measured (.negation inner.expression) (inner.height + 1)).looksAhead next
  exact whole.congr fun _ _ => rfl

/-- What is not the sign of a negation and opens no group is read as a chain. -/
theorem looksAhead_chain (budget : Nat) {cursor : Cursor}
    (start : ∀ token ∈ cursor.rest.head?, token.enters = false) :
    LooksAhead (readOperand budget) cursor := by
  refine (looksAhead_readChain cursor).congr fun other alike => readOperand_of_start budget ?_
  intro token first
  have outside := alike.forall_head start token first
  cases token <;> simp [Token.inChain, Token.endsOperand, Token.enters] at outside ⊢

theorem looksAhead_readOperand (budget : Nat) (cursor : Cursor) :
    LooksAhead (readOperand budget) cursor := by
  induction budget generalizing cursor with
  | zero =>
    obtain ⟨position, tokens⟩ := cursor
    cases tokens with
    | nil => exact looksAhead_chain 0 fun _ first => by cases first
    | cons token rest =>
      cases token with
      | negation | opening => exact .tooDeep rfl
      | dot | closing | both | either | wildcard | deepWildcard | filter | slice | property =>
        exact looksAhead_chain 0 fun _ first => by cases first; rfl
  | succ budget ih =>
    obtain ⟨position, tokens⟩ := cursor
    cases tokens with
    | nil => exact looksAhead_chain _ fun _ first => by cases first
    | cons token rest =>
      cases token with
      | negation => exact (looksAhead_negation ih ⟨position + 1, rest⟩).token fun _ => rfl
      | opening => exact looksAhead_group ih rest fun _ => rfl
      | dot | closing | both | either | wildcard | deepWildcard | filter | slice | property =>
        exact looksAhead_chain _ fun _ first => by cases first; rfl

theorem connective?_of_readJoined (looks : ∀ cursor, LooksAhead operand cursor)
    {cursor next : Cursor} {whole : Measured}
    (read : readJoined operand cursor = .ok (whole, next)) : connective? next.rest = none := by
  obtain ⟨⟨first, middle⟩, readFirst, read⟩ := ok_of_bind read
  obtain ⟨⟨others, last⟩, readOthers, read⟩ := ok_of_bind read
  obtain ⟨joined, combined, read⟩ := ok_of_bind read
  cases read
  exact connective?_of_readOthers looks readOthers

end Readers

end Parse

end JsonQuery
