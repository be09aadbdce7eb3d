import CampusView.Cache.Key
import CampusView.Context
import CampusView.Program

/-!
# Held applicants

Somebody whose application is not decided yet can sign in already, but is not let in: a *held*
applicant. A directory entry of another kind than an unregistered student vouches for a person;
else the student record decides. Somebody about whom nothing is known is not held.

A decision is kept in the cache, and that somebody is held only for a short time.
-/

namespace CampusView

open Time

/-- The affiliations of the directory that vouch for nobody. -/
def unvouchedAffiliations : List String :=
  ["STUDENT-TYPE-NOT REGISTERED", "STUDENT-TYPE-NOT-REGISTERED"]

/-- The directory vouches for a person. -/
def DirectoryRecord.vouches (record : DirectoryRecord) : Bool :=
  record.affiliations.any fun a => !unvouchedAffiliations.contains (Text.trim a)

/-- A person with these affiliations of the student record has nothing but an application in
process. -/
def onlyApplies (affiliations : List Affiliation) (today : Date) : Bool :=
  applicantInProcess affiliations && (classifyAt affiliations today).isEmpty

/-- What the cache says about somebody who is held. -/
def heldEntry : String := "held"

/-- What the cache says about somebody who is let in. -/
def clearEntry : String := "clear"

/-- Find out whether somebody is a held applicant. -/
def findHeld (settings : Settings) (uid : Uid) : Program Bool := do
  let directory ← Program.perform (.inquire settings.timeout (Inquiry.ask .directory uid))
  if directory.found?.any DirectoryRecord.vouches then return false
  let affiliations ← Program.perform
    (.inquire settings.timeout (Inquiry.ask .recordAffiliations uid))
  let now ← Program.perform .readClock
  return affiliations.found?.any fun affiliations => onlyApplies affiliations now.date

/-- Somebody is a held applicant, by the cache or else by the campus systems. -/
def isHeld (settings : Settings) (uid : Uid) : Program Bool := do
  let key := Cache.Key.admission uid
  match ← Program.perform (.readCache key) with
  | some entry => return entry == heldEntry
  | none =>
    let held ← findHeld settings uid
    if held then Program.perform (.writeCache key heldEntry settings.heldTtl)
    else Program.perform (.writeCache key clearEntry settings.cacheTtl)
    return held

/-- The user, if they are let in. -/
def letIn (settings : Settings) (uid : Uid) : Program (Option Uid) := do
  if settings.flags.authenticationValidator then
    return if ← isHeld settings uid then none else some uid
  else return some uid

end CampusView
