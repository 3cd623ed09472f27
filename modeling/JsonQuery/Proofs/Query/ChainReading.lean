import JsonQuery.Proofs.Query.Grammar
import Mathlib.Data.List.Induction

/-! The reader of chains accepts the runs of the grammar: every token that it takes
extends the run, and it takes every run whole. -/

namespace JsonQuery

/-- No token of a chain comes next. -/
def EndsChain (rest : List Token) : Prop := ∀ token ∈ rest.head?, token.inChain = false

theorem lastFilter_concat (tokens : List Token) (token : Token) :
    lastFilter (tokens ++ [token]) = token.filter?.or (lastFilter tokens) := by
  unfold lastFilter
  cases found : token.filter? <;> simp [List.filterMap_append, found]

theorem lastSlice_concat (tokens : List Token) (token : Token) :
    lastSlice (tokens ++ [token]) = token.slice?.or (lastSlice tokens) := by
  unfold lastSlice
  cases found : token.slice? <;> simp [List.filterMap_append, found]

theorem Token.slice?_of_followsWildcard {token : Token} (follows : token.followsWildcard = true) :
    token.slice? = none := by
  cases token <;> first | rfl | cases follows

theorem Token.followsProperty_of_followsWildcard {token : Token}
    (follows : token.followsWildcard = true) : token.followsProperty = true := by
  cases token <;> first | rfl | cases follows

private theorem follow_concat {test : Token → Bool} {after : List Token} {token : Token}
    (follow : ∀ token ∈ after, test token = true) (follows : test token = true) :
    ∀ other ∈ after ++ [token], test other = true := by
  intro other member
  rcases List.mem_append.mp member with earlier | last
  · exact follow other earlier
  · exact List.mem_singleton.mp last ▸ follows

namespace SegmentRun

variable {tokens : List Token} {segment : Segment}

theorem follow (run : SegmentRun tokens segment) {token : Token}
    (follows : token.followsWildcard = true) :
    SegmentRun (tokens ++ [token]) (token.filter?.elim segment segment.withFilter) := by
  cases run with
  | property name before =>
    have after := follow_concat before (Token.followsProperty_of_followsWildcard follows)
    have extended := SegmentRun.property name after
    rw [lastFilter_concat, lastSlice_concat, Token.slice?_of_followsWildcard follows] at extended
    cases filter : token.filter? <;> simpa [filter, Segment.withFilter] using extended
  | wildcard before =>
    have extended := SegmentRun.wildcard (follow_concat before follows)
    rw [lastFilter_concat] at extended
    cases filter : token.filter? <;> simpa [filter, Segment.withFilter] using extended
  | deepWildcard before =>
    have extended := SegmentRun.deepWildcard (follow_concat before follows)
    rw [lastFilter_concat] at extended
    cases filter : token.filter? <;> simpa [filter, Segment.withFilter] using extended

theorem slice {name : String} {filter : Option Filter} {held : Option Slice} (value : Slice)
    (run : SegmentRun tokens (.property name filter held)) :
    SegmentRun (tokens ++ [.slice value]) (.property name filter (some value)) := by
  cases run with
  | property name before =>
    have follows : (Token.slice value).followsProperty = true := rfl
    have extended := SegmentRun.property name (follow_concat before follows)
    rw [lastFilter_concat, lastSlice_concat] at extended
    exact extended

end SegmentRun

namespace ChainRun

variable {tokens : List Token} {chain : Chain} {last : Segment}

theorem split_last (run : ChainRun tokens (chain ++ [last])) :
    ∃ before after, tokens = before ++ after ∧ ChainRun before chain ∧ SegmentRun after last := by
  generalize same : chain ++ [last] = whole at run
  cases run with
  | dots dots => simp at same
  | segment first final =>
    obtain ⟨rfl, rfl⟩ := List.append_inj' same rfl |>.imp_right List.singleton_inj.mp
    exact ⟨_, _, rfl, first, final⟩

theorem extend {token : Token} {changed : Segment}
    (run : ChainRun tokens (chain ++ [last]))
    (step : ∀ after, SegmentRun after last → SegmentRun (after ++ [token]) changed) :
    ChainRun (tokens ++ [token]) (chain ++ [changed]) := by
  obtain ⟨before, after, rfl, first, final⟩ := run.split_last
  rw [List.append_assoc]
  exact .segment first (step after final)

theorem dot (run : ChainRun tokens chain) : ChainRun (tokens ++ [.dot]) chain := by
  cases run with
  | dots dots =>
    refine .dots ?_
    intro token member
    rcases List.mem_append.mp member with earlier | last
    · exact dots token earlier
    · exact List.mem_singleton.mp last
  | segment first last =>
    rw [List.append_assoc]
    exact .segment first (last.follow rfl)

end ChainRun

/-- Some tokens were read as the rest of a chain. -/
def ReadAsChain (position : Nat) (tokens before : List Token) (chain : Chain)
    (next : Parse.Cursor) : Prop :=
  ∃ run, tokens = run ++ next.rest ∧ next.position = position + run.length ∧
    ChainRun (before ++ run) chain ∧ EndsChain next.rest

theorem ReadAsChain.cons {position : Nat} {token : Token} {tokens before : List Token}
    {chain : Chain} {next : Parse.Cursor}
    (read : ReadAsChain (position + 1) tokens (before ++ [token]) chain next) :
    ReadAsChain position (token :: tokens) before chain next := by
  obtain ⟨run, split, moved, formed, ended⟩ := read
  refine ⟨token :: run, ?_, ?_, ?_, ended⟩
  · rw [split, List.cons_append]
  · rw [moved, List.length_cons]
    omega
  · rw [List.append_assoc] at formed
    exact formed

/-- Each token that the reader takes extends the run of what it has read. -/
theorem readSegments_sound {position : Nat} {done : Chain} {tokens before : List Token}
    {chain : Chain} {next : Parse.Cursor} (formed : ChainRun before done.reverse)
    (read : Parse.readSegments position done tokens = .ok (chain, next)) :
    ReadAsChain position tokens before chain next := by
  fun_induction Parse.readSegments position done tokens generalizing before with
  | case1 position done rest ih => exact (ih formed.dot read).cons
  | case2 position done name rest ih =>
    have started := SegmentRun.property name (List.forall_mem_nil _)
    refine (ih ?_ read).cons
    rw [List.reverse_cons]
    exact .segment formed started
  | case3 position done rest ih =>
    have started := SegmentRun.wildcard (List.forall_mem_nil _)
    refine (ih ?_ read).cons
    rw [List.reverse_cons]
    exact .segment formed started
  | case4 position done rest ih =>
    have started := SegmentRun.deepWildcard (List.forall_mem_nil _)
    refine (ih ?_ read).cons
    rw [List.reverse_cons]
    exact .segment formed started
  | case5 => cases read
  | case6 position text rest last earlier ih =>
    refine (ih ?_ read).cons
    rw [List.reverse_cons] at formed ⊢
    exact formed.extend fun after run => run.follow rfl
  | case7 position value rest name filter held earlier ih =>
    refine (ih ?_ read).cons
    rw [List.reverse_cons] at formed ⊢
    exact formed.extend fun after run => run.slice value
  | case8 => cases read
  | case9 position done rest dot property wildcard deepWildcard filter slice =>
    cases read
    refine ⟨[], rfl, rfl, ?_, ?_⟩
    · rw [List.append_nil]
      exact formed
    · intro token first
      obtain ⟨others, rfl⟩ := List.head?_eq_some_iff.mp first
      cases token with
      | dot => exact absurd rfl (dot others)
      | property name => exact absurd rfl (property name others)
      | wildcard => exact absurd rfl (wildcard others)
      | deepWildcard => exact absurd rfl (deepWildcard others)
      | filter text => exact absurd rfl (filter text others)
      | slice value => exact absurd rfl (slice value others)
      | opening | closing | both | either | negation => rfl

theorem readSegments_ended {position : Nat} {done : Chain} {rest : List Token}
    (ended : EndsChain rest) :
    Parse.readSegments position done rest = .ok (done.reverse, ⟨position, rest⟩) := by
  cases rest with
  | nil => rw [Parse.readSegments] <;> simp
  | cons token others =>
    have outside : token.inChain = false := ended token rfl
    cases token with
    | opening | closing | both | either | negation => rw [Parse.readSegments] <;> simp
    | dot | property | wildcard | deepWildcard | filter | slice => cases outside

theorem readSegments_follow {position : Nat} {last : Segment} {done : Chain} {token : Token}
    {rest : List Token} (follows : token.followsWildcard = true) :
    Parse.readSegments position (last :: done) (token :: rest) =
      Parse.readSegments (position + 1) (token.filter?.elim last last.withFilter :: done) rest := by
  cases token with
  | dot => rw [Parse.readSegments]; rfl
  | filter text => rw [Parse.readSegments]; rfl
  | opening | closing | both | either | negation | wildcard | deepWildcard | slice | property =>
    cases follows

namespace SegmentRun

/-- Everything behind a wildcard, and the same for two of them, changes its filter only. -/
private theorem read_filters {build : Option Filter → Segment}
    (rebuild : ∀ filter value, (build filter).withFilter value = build (some value))
    {after : List Token} (follow : ∀ token ∈ after, token.followsWildcard = true)
    (position : Nat) (done : Chain) (rest : List Token) :
    Parse.readSegments position (build none :: done) (after ++ rest) =
      Parse.readSegments (position + after.length) (build (lastFilter after) :: done) rest := by
  induction after using List.reverseRecOn generalizing rest with
  | nil => rfl
  | append_singleton after token ih =>
    have follows := follow token (by simp)
    have earlier := ih (fun token member => follow token (List.mem_append_left _ member))
    rw [List.append_assoc, earlier, List.singleton_append, readSegments_follow follows,
      lastFilter_concat, List.length_append, ← Nat.add_assoc]
    cases token.filter? with
    | none => rfl
    | some filter =>
      change Parse.readSegments _ ((build (lastFilter after)).withFilter filter :: done) rest = _
      rw [rebuild]
      rfl

private theorem read_property {name : String} {after : List Token}
    (follow : ∀ token ∈ after, token.followsProperty = true)
    (position : Nat) (done : Chain) (rest : List Token) :
    Parse.readSegments position (.property name none none :: done) (after ++ rest) =
      Parse.readSegments (position + after.length)
        (.property name (lastFilter after) (lastSlice after) :: done) rest := by
  induction after using List.reverseRecOn generalizing rest with
  | nil => rfl
  | append_singleton after token ih =>
    have follows := follow token (by simp)
    have earlier := ih (fun token member => follow token (List.mem_append_left _ member))
    rw [List.append_assoc, earlier, List.singleton_append, lastFilter_concat, lastSlice_concat,
      List.length_append, ← Nat.add_assoc]
    cases token with
    | dot => rw [Parse.readSegments]; rfl
    | filter text => rw [Parse.readSegments]; rfl
    | slice value => rw [Parse.readSegments]; rfl
    | opening | closing | both | either | negation | wildcard | deepWildcard | property =>
      cases follows

theorem read {run : List Token} {segment : Segment} (formed : SegmentRun run segment)
    (position : Nat) (done : Chain) (rest : List Token) :
    Parse.readSegments position done (run ++ rest) =
      Parse.readSegments (position + run.length) (segment :: done) rest := by
  cases formed with
  | property name follow =>
    rw [List.cons_append, Parse.readSegments, read_property follow, List.length_cons]
    congr 1
    omega
  | wildcard follow =>
    rw [List.cons_append, Parse.readSegments, read_filters (fun _ _ => rfl) follow,
      List.length_cons]
    congr 1
    omega
  | deepWildcard follow =>
    rw [List.cons_append, Parse.readSegments, read_filters (fun _ _ => rfl) follow,
      List.length_cons]
    congr 1
    omega

end SegmentRun

namespace ChainRun

theorem read {run : List Token} {chain : Chain} (formed : ChainRun run chain) (position : Nat)
    (done : Chain) (rest : List Token) :
    Parse.readSegments position done (run ++ rest) =
      Parse.readSegments (position + run.length) (chain.reverse ++ done) rest := by
  induction formed generalizing rest with
  | dots dots =>
    rename_i run
    induction run generalizing position with
    | nil => rfl
    | cons token others ih =>
      obtain ⟨rfl, remaining⟩ := List.forall_mem_cons.mp dots
      rw [List.cons_append, Parse.readSegments, ih (position + 1) remaining, List.length_cons]
      congr 1
      omega
  | segment first last ih =>
    rw [List.append_assoc, ih, last.read, List.length_append, List.reverse_concat, Nat.add_assoc]
    rfl

end ChainRun

/-- The reader takes the runs of the grammar, as far as the tokens of chains go. -/
theorem readSegments_complete {run rest : List Token} {chain : Chain} (formed : ChainRun run chain)
    (ended : EndsChain rest) (position : Nat) :
    Parse.readSegments position [] (run ++ rest) =
      .ok (chain, ⟨position + run.length, rest⟩) := by
  rw [formed.read, readSegments_ended ended, List.append_nil, List.reverse_reverse]

end JsonQuery
