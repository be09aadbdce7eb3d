import CampusView.Json.Codec

/-!
# Feature flags

The switches of the migration from the legacy student system to the modern one.
-/

namespace CampusView

open Json

/-- The feature flags. -/
structure FeatureFlags where
  /-- Ask the modern student record. -/
  csProfile : Bool := true
  /-- Let delegates see the students who gave them access. -/
  csDelegatedAccess : Bool := true
  /-- Show the modern profile also of people whom the modern system does not count as its
  students. -/
  csProfileVisibleForLegacyUsers : Bool := false
  /-- Turn held applicants away. -/
  authenticationValidator : Bool := false
deriving DecidableEq, Repr

/-- The members of `FeatureFlags`. -/
def FeatureFlags.layout : Layout := [
  ("cs_profile", .any),
  ("cs_delegated_access", .any),
  ("cs_profile_visible_for_legacy_users", .any),
  ("authentication_validator", .any)]

instance : Encode FeatureFlags := ⟨fun f => .object [
  ("cs_profile", .bool f.csProfile),
  ("cs_delegated_access", .bool f.csDelegatedAccess),
  ("cs_profile_visible_for_legacy_users", .bool f.csProfileVisibleForLegacyUsers),
  ("authentication_validator", .bool f.authenticationValidator)]⟩

instance : Decode FeatureFlags := ⟨.record FeatureFlags.layout, fun v => do
  let r ← v.record? FeatureFlags.layout
  let d : FeatureFlags := {}
  return {
    csProfile := ← r.getD? "cs_profile" d.csProfile
    csDelegatedAccess := ← r.getD? "cs_delegated_access" d.csDelegatedAccess
    csProfileVisibleForLegacyUsers :=
      ← r.getD? "cs_profile_visible_for_legacy_users" d.csProfileVisibleForLegacyUsers
    authenticationValidator :=
      ← r.getD? "authentication_validator" d.authenticationValidator }⟩

end CampusView
