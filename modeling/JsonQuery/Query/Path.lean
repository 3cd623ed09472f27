import JsonQuery.Json.Basic
import JsonQuery.Text.Split

/-! Dotted paths, which lead from an item down to one of its descendants. -/

namespace JsonQuery

/-- A path as it is written, its keys separated by points. -/
structure Path where
  text : String
deriving DecidableEq

namespace Path

/-- The keys of the path; there is at least one, which may be empty. -/
def keys (path : Path) : List String :=
  (Text.split '.' [] path.text.toList).map String.ofList

def locate? (path : Path) (item : Json) : Option (Position × Json) :=
  item.follow? path.keys

def resolve? (path : Path) (item : Json) : Option Json :=
  (path.locate? item).map (·.2)

end Path

end JsonQuery
