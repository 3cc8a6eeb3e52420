import UnitWatch.Value

/-!
# Merging of named values

Two sets of named values are merged leaf by leaf: where both have an object, the objects are merged,
and elsewhere the value that has priority stands (`mergeFields`).
-/

namespace UnitWatch.Config

mutual

/-- A value over the one that stands in its place, if there is one. -/
def mergeValue (base : Option Value) : Value → Value
  | .object given =>
    match base with
    | some (.object fields) => .object (mergeFields fields given)
    | _ => .object given
  | v => v

/-- Named values over others. -/
def mergeFields (base : List (String × Value)) : List (String × Value) → List (String × Value)
  | [] => base
  | (name, v) :: rest =>
      mergeFields (Value.put base name (mergeValue (Value.field? base name) v)) rest

end

end UnitWatch.Config
