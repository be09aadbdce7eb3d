import CampusView.Feed
import CampusView.Affiliation
import CampusView.Directory
import CampusView.Time.Duration

/-!
# The campus systems

What the site shows comes from ten campus systems. A `Campus` says what each of them answers about
each person. Every call has a time limit, and `within` gives what the calls come back with when
each system takes its time: a call that takes longer than the limit counts as failed.
-/

namespace CampusView

open Time

/-- The campus systems. -/
inductive System
  | legacy
  | modern
  | crosswalk
  | delegateStudents
  | userAuth
  | courseHistory
  | linkedAccounts
  | academics
  | directory
  | recordAffiliations
deriving DecidableEq, Repr

namespace System

/-- What a system tells about a person. -/
abbrev Answer : System → Type
  | legacy => AttributeBag
  | modern => AttributeBag
  | crosswalk => CorrelatedIds
  | delegateStudents => List DelegateStudent
  | userAuth => UserAuth
  | courseHistory => CourseHistory
  | linkedAccounts => LinkedAccounts
  | academics => AcademicsFeed
  | directory => DirectoryRecord
  | recordAffiliations => List Affiliation

/-- The systems in order. -/
def all : List System :=
  [legacy, modern, crosswalk, delegateStudents, userAuth, courseHistory, linkedAccounts, academics,
    directory, recordAffiliations]

theorem mem_all (s : System) : s ∈ all := by cases s <;> decide

/-- How a message names a system. -/
def label : System → String
  | legacy => "legacy"
  | modern => "modern"
  | crosswalk => "crosswalk"
  | delegateStudents => "delegate_students"
  | userAuth => "user_auth"
  | courseHistory => "course_history"
  | linkedAccounts => "linked_accounts"
  | academics => "academics"
  | directory => "directory"
  | recordAffiliations => "record_affiliations"

/-- The two systems that report attributes, which an outage of the others leaves running. -/
def reportsAttributes : System → Bool
  | legacy | modern => true
  | _ => false

end System

/-- A question to a campus system about a person. -/
structure Call where
  system : System
  uid : Uid
deriving DecidableEq, Repr

/-- A length of time in whole milliseconds, rounded up. -/
def wholeMillis (n : Nanos) : Nanos := millis ((n + 999999) / 1000000)

/-- What a call comes back with after `delay` under a time limit. Timers count whole milliseconds.
-/
def Lookup.within (source : String) (limit delay : Nanos) (answer : Lookup α) : Lookup α :=
  if delay ≤ wholeMillis limit then answer
  else .errored (source ++ " timed out after " ++ durationText limit)

/-- What the campus systems answer. -/
def Campus := (s : System) → Uid → Lookup s.Answer

namespace Campus

/-- Nobody is known. -/
def empty : Campus := fun _ _ => .notFound

instance : EmptyCollection Campus := ⟨empty⟩
instance : Inhabited Campus := ⟨empty⟩

/-- Change the answer of a system about a person. -/
def set (c : Campus) (s : System) (uid : Uid) (answer : Lookup s.Answer) : Campus := fun t u =>
  if h : t = s then if u = uid then h ▸ answer else c t u else c t u

/-- Every system but those that report attributes fails. -/
def offline (c : Campus) : Campus := fun s uid =>
  if s.reportsAttributes then c s uid else .errored "offline"

/-- What calls come back with when each system takes its time. -/
def within (c : Campus) (limit : Nanos) (delay : System → Nanos) : Campus := fun s uid =>
  (c s uid).within s.label limit (delay s)

theorem within_no_delay (c : Campus) (limit : Nanos) : c.within limit (fun _ => 0) = c := by
  funext s uid
  show Lookup.within _ limit 0 (c s uid) = c s uid
  rw [Lookup.within, if_pos (Nat.zero_le _)]

end Campus

end CampusView
