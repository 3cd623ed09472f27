import JsonQuery.Cache
import JsonQuery.Json.Writer
import JsonQuery.Pattern.Match
import JsonQuery.Pattern.Reader
import JsonQuery.Text.Quoted

/-! The engine of patterns that is in use. Selectors, cache settings and selection options
from JSON values, and what is wrong with a value from which none can be made. -/

namespace JsonQuery

/-- The engine of this library, whose patterns match the texts in which they occur. What is
proved of filters holds of every engine, and so of one that reads more patterns as well. -/
instance : PatternEngine where
  matcher? text := (Pattern.read? text).map Pattern.occursIn

/-- Why a value describes no setting. -/
inductive SettingsError where
  | wrongType (found : Json) (expected : String)
  | negative (found : Int)
  | tooLong (count : Nat)
  | selector (error : ParseError)

namespace SettingsError

/-- What kind of value was found, and which one if it is short. -/
def describe : Json → String
  | .null => "null"
  | .bool value => "boolean `" ++ (if value then "true" else "false") ++ "`"
  | .number (.integer value) => "integer `" ++ Json.numberText (.integer value) ++ "`"
  | .number (.float value) => "floating point `" ++ Json.numberText (.float value) ++ "`"
  | .string text => "string " ++ Text.quoted text
  | .array _ => "sequence"
  | .object _ => "map"

def message : SettingsError → String
  | wrongType found expected => "invalid type: " ++ describe found ++ ", expected " ++ expected
  | negative found =>
    "invalid value: " ++ describe (.number (.integer found)) ++ ", expected usize"
  | tooLong count =>
    "invalid length " ++ toString count ++ ", expected fewer elements in array"
  | selector error => error.message

end SettingsError

def Selector.ofJson : Json → Except SettingsError Selector
  | .string text => (Selector.read text).mapError .selector
  | value => .error (.wrongType value "a string representing a selector")

structure CacheConfig where
  capacity : Nat := Cache.defaultCapacity
deriving DecidableEq

namespace CacheConfig

def capacityOfJson : Json → Except SettingsError Nat
  | .number (.integer value) => if value < 0 then .error (.negative value) else .ok value.toNat
  | value => .error (.wrongType value "usize")

/-- The settings that a value describes: an object with the capacity or without it,
or an array of at most the capacity. -/
def ofJson : Json → Except SettingsError CacheConfig
  | .object members =>
    match members.lookup "capacity" with
    | some value => (capacityOfJson value).map fun capacity => ⟨capacity⟩
    | none => .ok {}
  | .array [] => .ok {}
  | .array (value :: rest) => do
    let capacity ← capacityOfJson value
    if rest.isEmpty then return ⟨capacity⟩ else .error (.tooLong (rest.length + 1))
  | value => .error (.wrongType value "struct CacheConfig")

end CacheConfig

def Cache.ofConfig (config : CacheConfig) : Cache := Cache.new config.capacity

/-- The options of a selection, of which there are none so far. -/
structure SelectOptions where
deriving DecidableEq

/-- The options that a value describes: any object, or an empty array. -/
def SelectOptions.ofJson : Json → Except SettingsError SelectOptions
  | .object _ => .ok {}
  | .array [] => .ok {}
  | .array items => .error (.tooLong items.length)
  | value => .error (.wrongType value "struct SelectOptions")

end JsonQuery
