import CampusView.Identity
import CampusView.Time.Format

/-!
# Data kept about a user

The site keeps two things about a user: a preferred name, which overrides the name that campus
systems report, and the instant of the first login.
-/

namespace CampusView

open Json Time

/-- What is kept about a user. -/
structure UserData where
  uid : Uid
  preferredName : Option String := none
  firstLoginAt : Option Instant := none
deriving DecidableEq, Repr

/-- The members of `UserData`. -/
def UserData.layout : Layout :=
  [("uid", .text), ("preferredName", .optional .text), ("firstLoginAt", .optional .text)]

instance : Encode UserData := ⟨fun d => .object [
  ("uid", encode d.uid),
  ("preferredName", encode d.preferredName),
  ("firstLoginAt", encode d.firstLoginAt)]⟩

instance : Decode UserData := ⟨.record UserData.layout, fun v => do
  let r ← v.record? UserData.layout
  return {
    uid := ← r.get? "uid"
    preferredName := ← r.option? "preferredName"
    firstLoginAt := ← r.option? "firstLoginAt" }⟩

end CampusView
