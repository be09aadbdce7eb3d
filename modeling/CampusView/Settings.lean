import CampusView.Flags
import CampusView.Time.Duration

/-!
# Settings

What the service may be told to do otherwise: the feature flags, how long a campus system may
take, and how long answers are kept.
-/

namespace CampusView

open Time

/-- The settings of the service. -/
structure Settings where
  flags : FeatureFlags := {}
  /-- How long a call to a campus system may take. -/
  timeout : Nanos := seconds 5
  /-- How long an answer is kept. -/
  cacheTtl : Nanos := seconds 28800
  /-- How long a feed is kept that was composed while a campus system failed. -/
  failureTtl : Nanos := seconds 60
  /-- How long it is remembered that an applicant is held. -/
  heldTtl : Nanos := seconds 60
deriving DecidableEq, Repr

end CampusView
