import JsonQuery.Proofs.Query.ChainReading

/-! Which tokens are a chain, token by token: a filter may stand behind any segment, and a
slice may stand where the latest segment is a property. The chain then has one segment for
each token that starts one, in order. -/

namespace JsonQuery

def Token.startsSegment : Token → Bool
  | property _ | wildcard | deepWildcard => true
  | _ => false

def Segment.start : Segment → Token
  | property name _ _ => .property name
  | wildcard _ => .wildcard
  | deepWildcard _ => .deepWildcard

/-- The latest token that starts a segment. -/
def latestStart (tokens : List Token) : Option Token :=
  (tokens.filter Token.startsSegment).getLast?

/-- A token may go on a chain behind the given tokens. -/
def Token.MayFollow (before : List Token) : Token → Prop
  | filter _ => ∃ start, latestStart before = some start
  | slice _ => ∃ name, latestStart before = some (.property name)
  | token => token.inChain = true

namespace SegmentRun

variable {tokens : List Token} {segment : Segment}

private theorem rest_starts {test : Token → Bool} {rest : List Token}
    (follow : ∀ token ∈ rest, test token = true)
    (inside : ∀ token, test token = true → token.followsProperty = true) :
    rest.filter Token.startsSegment = [] := by
  rw [List.filter_eq_nil_iff]
  intro token member
  have follows := inside token (follow token member)
  cases token with
  | dot | filter | slice => exact Bool.false_ne_true
  | opening | closing | both | either | negation | wildcard | deepWildcard | property =>
    cases follows

theorem starts (run : SegmentRun tokens segment) :
    tokens.filter Token.startsSegment = [segment.start] := by
  cases run with
  | property name follow =>
    have none := rest_starts follow fun _ follows => follows
    rw [List.filter_cons_of_pos rfl, none]
    rfl
  | wildcard follow | deepWildcard follow =>
    have none := rest_starts follow fun _ => Token.followsProperty_of_followsWildcard
    rw [List.filter_cons_of_pos rfl, none]
    rfl

end SegmentRun

namespace ChainRun

variable {tokens : List Token} {chain : Chain}

theorem starts (run : ChainRun tokens chain) :
    tokens.filter Token.startsSegment = chain.map Segment.start := by
  induction run with
  | dots dots =>
    rw [List.map_nil, List.filter_eq_nil_iff]
    intro token member
    rw [dots token member]
    decide
  | segment first last ih => rw [List.filter_append, List.map_append, ih, last.starts]; rfl

theorem latestStart_eq (run : ChainRun tokens chain) :
    latestStart tokens = chain.getLast?.map Segment.start := by
  rw [latestStart, run.starts, List.getLast?_map]

private theorem mayFollow_of_follows {before rest : List Token} {start token : Token}
    (starts : start.startsSegment = true) (none : rest.filter Token.startsSegment = [])
    (follows : token.followsWildcard = true ∨
      token.followsProperty = true ∧ ∃ name, start = .property name) :
    token.MayFollow (before ++ start :: rest) := by
  have latest : latestStart (before ++ start :: rest) = some start := by
    rw [latestStart, List.filter_append, List.filter_cons_of_pos starts, none,
      List.getLast?_concat]
  cases token with
  | dot => rfl
  | filter text => exact ⟨start, latest⟩
  | slice value =>
    rcases follows with wild | ⟨_, name, rfl⟩
    · cases wild
    · exact ⟨name, latest⟩
  | opening | closing | both | either | negation | wildcard | deepWildcard | property =>
    rcases follows with wild | ⟨wild, _⟩ <;> cases wild

/-- The last token of a run starts its last segment or stands behind that start. -/
private theorem concat_cases {before rest whole : List Token} {start token : Token}
    (split : whole ++ [token] = before ++ start :: rest) :
    rest = [] ∧ whole = before ∧ token = start ∨
      ∃ shorter, rest = shorter ++ [token] ∧ whole = before ++ start :: shorter := by
  rcases List.eq_nil_or_concat rest with rfl | ⟨shorter, last, rfl⟩
  · obtain ⟨same, last⟩ := List.append_inj' split rfl
    exact .inl ⟨rfl, same, List.singleton_inj.mp last⟩
  · rw [List.concat_eq_append, ← List.cons_append, ← List.append_assoc] at split
    obtain ⟨same, final⟩ := List.append_inj' split rfl
    obtain rfl := List.singleton_inj.mp final
    exact .inr ⟨shorter, List.concat_eq_append, same⟩

/-- Without its last token a run is still one, and the token may follow it. -/
theorem of_concat {token : Token} (run : ChainRun (tokens ++ [token]) chain) :
    (∃ shorter, ChainRun tokens shorter) ∧ token.MayFollow tokens := by
  generalize same : tokens ++ [token] = whole at run
  cases run with
  | dots dots =>
    subst same
    obtain ⟨earlier, last⟩ := List.forall_mem_append.mp dots
    refine ⟨⟨[], .dots earlier⟩, ?_⟩
    rw [last token List.mem_cons_self]
    rfl
  | @segment before after chain segment first last =>
    cases last with
    | @property rest name follow =>
      rcases concat_cases same with ⟨_, rfl, rfl⟩ | ⟨shorter, rfl, rfl⟩
      · exact ⟨⟨chain, first⟩, rfl⟩
      · obtain ⟨earlier, final⟩ := List.forall_mem_append.mp follow
        have none := SegmentRun.rest_starts earlier fun _ follows => follows
        exact ⟨⟨_, .segment first (.property name earlier)⟩, mayFollow_of_follows rfl none
          (.inr ⟨final token List.mem_cons_self, name, rfl⟩)⟩
    | @wildcard rest follow =>
      rcases concat_cases same with ⟨_, rfl, rfl⟩ | ⟨shorter, rfl, rfl⟩
      · exact ⟨⟨chain, first⟩, rfl⟩
      · obtain ⟨earlier, final⟩ := List.forall_mem_append.mp follow
        have none := SegmentRun.rest_starts earlier fun _ => Token.followsProperty_of_followsWildcard
        exact ⟨⟨_, .segment first (.wildcard earlier)⟩, mayFollow_of_follows rfl none
          (.inl (final token List.mem_cons_self))⟩
    | @deepWildcard rest follow =>
      rcases concat_cases same with ⟨_, rfl, rfl⟩ | ⟨shorter, rfl, rfl⟩
      · exact ⟨⟨chain, first⟩, rfl⟩
      · obtain ⟨earlier, final⟩ := List.forall_mem_append.mp follow
        have none := SegmentRun.rest_starts earlier fun _ => Token.followsProperty_of_followsWildcard
        exact ⟨⟨_, .segment first (.deepWildcard earlier)⟩, mayFollow_of_follows rfl none
          (.inl (final token List.mem_cons_self))⟩

theorem concat {token : Token} (run : ChainRun tokens chain) (follows : token.MayFollow tokens) :
    ∃ longer, ChainRun (tokens ++ [token]) longer := by
  have latest := run.latestStart_eq
  cases token with
  | dot => exact ⟨chain, run.dot⟩
  | property name => exact ⟨_, .segment run (.property name (List.forall_mem_nil _))⟩
  | wildcard => exact ⟨_, .segment run (.wildcard (List.forall_mem_nil _))⟩
  | deepWildcard => exact ⟨_, .segment run (.deepWildcard (List.forall_mem_nil _))⟩
  | filter text =>
    obtain ⟨start, found⟩ := follows
    rw [latest, Option.map_eq_some_iff] at found
    obtain ⟨last, ends, _⟩ := found
    obtain ⟨before, rfl⟩ := List.getLast?_eq_some_iff.mp ends
    exact ⟨_, run.extend fun after final => final.follow rfl⟩
  | slice value =>
    obtain ⟨name, found⟩ := follows
    rw [latest, Option.map_eq_some_iff] at found
    obtain ⟨last, ends, start⟩ := found
    obtain ⟨before, rfl⟩ := List.getLast?_eq_some_iff.mp ends
    cases last with
    | property name filter held => exact ⟨_, run.extend fun after final => final.slice value⟩
    | wildcard | deepWildcard => cases start
  | opening | closing | both | either | negation => cases follows

end ChainRun

/-- Tokens are a chain exactly if each of them may follow those before it. -/
theorem exists_chainRun_iff (tokens : List Token) :
    (∃ chain, ChainRun tokens chain) ↔
      ∀ before token, before ++ [token] <+: tokens → token.MayFollow before := by
  constructor
  · rintro ⟨chain, run⟩
    induction tokens using List.reverseRecOn generalizing chain with
    | nil =>
      intro before token starts
      have empty := List.eq_nil_of_prefix_nil starts
      simp at empty
    | append_singleton tokens last ih =>
      obtain ⟨⟨shorter, earlier⟩, follows⟩ := run.of_concat
      intro before token starts
      rcases List.prefix_concat_iff.mp starts with whole | inside
      · obtain ⟨rfl, same⟩ := List.append_inj' whole rfl
        obtain rfl := List.singleton_inj.mp same
        exact follows
      · exact ih shorter earlier before token inside
  · intro follows
    induction tokens using List.reverseRecOn with
    | nil => exact ⟨[], .dots (List.forall_mem_nil _)⟩
    | append_singleton tokens last ih =>
      obtain ⟨chain, run⟩ := ih fun before token starts =>
        follows before token (starts.trans (List.prefix_append tokens [last]))
      exact run.concat (follows tokens last (List.prefix_refl _))

end JsonQuery
