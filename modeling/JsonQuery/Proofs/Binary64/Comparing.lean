import JsonQuery.Json.Basic

/-! Doubles are compared by their ranks, which all of them have but the undefined one. Numbers in a
value always have one. -/

namespace JsonQuery

namespace Binary64

variable {left right : Binary64}

theorem rank?_eq_none_iff {value : Binary64} : value.rank? = none ↔ value = nan := by
  cases value with
  | nan => exact iff_of_true rfl rfl
  | infinite negative => cases negative <;> exact iff_of_false nofun nofun
  | finite value => exact iff_of_false nofun nofun

theorem compare?_of_rank? {one other : Int} (first : left.rank? = some one)
    (second : right.rank? = some other) : left.compare? right = some (compare one other) := by
  simp [compare?, first, second]

theorem compare?_eq_none_iff : left.compare? right = none ↔ left = nan ∨ right = nan := by
  rw [← rank?_eq_none_iff, ← rank?_eq_none_iff]
  cases first : left.rank? with
  | none => simp [compare?, first]
  | some one =>
    cases second : right.rank? with
    | none => simp [compare?, first, second]
    | some other => simp [compare?_of_rank? first second]

theorem beq_iff_compare? : (left == right) = true ↔ left.compare? right = some .eq := by
  change (left.compare? right == some .eq) = true ↔ _
  exact beq_iff_eq

theorem compare?_self {value : Binary64} (defined : value ≠ nan) :
    value.compare? value = some .eq := by
  cases found : value.rank? with
  | none => exact absurd (rank?_eq_none_iff.mp found) defined
  | some rank =>
    have reflexive : compare rank rank = .eq := Std.ReflCmp.compare_self
    rw [compare?_of_rank? found found, reflexive]

theorem ofInt_ne_nan (value : Int) : ofInt value ≠ nan := by
  unfold ofInt nearest
  split <;> simp

end Binary64

namespace Number

theorem toBinary64_ne_nan (number : Number) : number.toBinary64 ≠ .nan := by
  cases number with
  | integer value => exact Binary64.ofInt_ne_nan value
  | float value => simp [toBinary64]

theorem rank?_toBinary64 (number : Number) : number.toBinary64.rank? = some number.rank := by
  cases found : number.toBinary64.rank? with
  | none => exact absurd (Binary64.rank?_eq_none_iff.mp found) number.toBinary64_ne_nan
  | some rank => simp [Number.rank, found]

theorem rank_eq_iff (one other : Number) :
    one.rank = other.rank ↔ (one.toBinary64 == other.toBinary64) = true := by
  rw [Binary64.beq_iff_compare?,
    Binary64.compare?_of_rank? one.rank?_toBinary64 other.rank?_toBinary64, Option.some.injEq,
    Std.LawfulEqCmp.compare_eq_iff_eq]

end Number

end JsonQuery
