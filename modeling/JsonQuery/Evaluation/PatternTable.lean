import JsonQuery.Query.Filter

/-! Testing filters. What patterns are and which texts they match is left to an engine.
They are compiled when they are first needed and kept by their text; a text that is no
pattern is kept as well, and never matches. -/

namespace JsonQuery

/-- The test of texts that a pattern compiles to. -/
abbrev Matcher := String → Bool

/-- An engine compiles the texts that are patterns for it. -/
class PatternEngine where
  matcher? : String → Option Matcher

/-- The patterns compiled so far, each with its text. -/
structure PatternTable where
  entries : List (String × Option Matcher)

abbrev Compiling := StateM PatternTable

namespace PatternTable

def empty : PatternTable := ⟨[]⟩

def size (table : PatternTable) : Nat := table.entries.length

section Compiling

variable [PatternEngine]

/-- The pattern of a text, compiled if it is not in the table. -/
def compile (text : String) : Compiling (Option Matcher) := do
  let table ← get
  match table.entries.lookup text with
  | some held => return held
  | none =>
    let compiled := PatternEngine.matcher? text
    set (⟨(text, compiled) :: table.entries⟩ : PatternTable)
    return compiled

variable {table : PatternTable} {text : String}

/-- What is in the table is not compiled again. -/
theorem run_compile_of_held {held : Option Matcher} (found : table.entries.lookup text = some held) :
    (compile text).run table = (held, table) := by
  simp only [compile, StateT.run_bind, StateT.run_get, pure_bind, found]
  rfl

theorem run_compile_of_absent (absent : table.entries.lookup text = none) :
    (compile text).run table =
      (PatternEngine.matcher? text,
        ⟨(text, PatternEngine.matcher? text) :: table.entries⟩) := by
  simp only [compile, StateT.run_bind, StateT.run_get, pure_bind, absent]
  rfl

end Compiling

end PatternTable

namespace Filter

variable [PatternEngine]

def test (filter : Filter) (item : Json) : Compiling Bool := do
  match filter with
  | existence path => return (path.resolve? item).isSome
  | comparison operator path value =>
    let resolved := path.resolve? item
    match operator.holds? resolved value with
    | some holds => return holds
    | none =>
      match ← PatternTable.compile value.patternText with
      | some occurs => return occurs (Resolved.toText resolved)
      | none => return false

def testAll (filter : Filter) : List Json → Compiling (List Bool)
  | [] => return []
  | item :: rest => do
    let passes ← filter.test item
    return passes :: (← filter.testAll rest)

end Filter

end JsonQuery
