import NullSafeEquality.Json.Basic

/-!
Options of an inspection.
-/

namespace NullSafeEquality

structure InspectionConfig where
  /-- Report bare calls of the equality method too, not only the null-guarded forms. -/
  ignoreNullCheck : Bool := true
deriving DecidableEq, Inhabited

namespace InspectionConfig

def guardedOnly : InspectionConfig := { ignoreNullCheck := false }

/-- Options from an object in which each may be absent, or from an array of them in order. -/
def ofJson? : Json → Option InspectionConfig
  | .object members =>
      match members.lookup "ignore_null_check" with
      | none => some {}
      | some j => j.bool?.map fun b => { ignoreNullCheck := b }
  | .array [] => some {}
  | .array [j] => j.bool?.map fun b => { ignoreNullCheck := b }
  | _ => none

end InspectionConfig
end NullSafeEquality
