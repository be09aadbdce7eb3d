import CampusView.Sighting

/-!
# What happens over time

While the site is running, turns are taken one after another, and what the cache keeps may be
forgotten at any time. An `Occurrence` is one of these, and `Desk.through` is the desk after a
sequence of them. The campus systems may behave in another way in every turn.

`Site.Told` is what the campus systems told about somebody who may be a held applicant.
-/

namespace CampusView

open Time

/-- What happens next. -/
inductive Occurrence
  /-- A turn, while the campus systems behave in some way. -/
  | turn (u : Conduct) (t : Turn)
  /-- After some time, a key of the cache and every key below it are forgotten. -/
  | forget (elapsed : Nanos) (root : String)

namespace Desk

/-- The desk after something happened. -/
def occur (settings : Settings) (d : Desk) : Occurrence → Desk
  | .turn u t => (d.turnUnder u settings t).2
  | .forget elapsed root =>
    let w := d.site.wait elapsed
    { d with site := { w with cache := w.cache.invalidate root } }

/-- The desk after one thing happened after another. -/
def through (settings : Settings) (occurrences : List Occurrence) (d : Desk) : Desk :=
  occurrences.foldl (occur settings) d

section

variable (settings : Settings) (d : Desk)

theorem through_append (past more : List Occurrence) :
    d.through settings (past ++ more) = (d.through settings past).through settings more :=
  List.foldl_append ..

theorem through_concat (past : List Occurrence) (o : Occurrence) :
    d.through settings (past ++ [o]) = (d.through settings past).occur settings o :=
  through_append settings d past [o]

end

end Desk

/-! ### What the campus systems tell about applicants -/

namespace Conduct

variable (u : Conduct) (limit : Nanos) (n : Nat) (uid : Uid)

/-- Call `n` of the site is answered by the directory with an entry that vouches for the user. -/
def Vouches : Prop := ∃ entry, u.answers limit n .directory uid = .found entry ∧
  entry.vouches = true

/-- Call `n` of the site is answered by the student record with an application in process and
nothing that gives the user a role on that day. -/
def ListsApplicant (today : Date) : Prop :=
  ∃ affiliations, u.answers limit n .recordAffiliations uid = .found affiliations ∧
    applicantInProcess affiliations = true ∧ (classifyAt affiliations today).isEmpty = true

end Conduct

/-- What the clock reads when the directory, which is asked first, has answered or has let the time
limit pass. -/
def Site.directoryTime (w : Site) (settings : Settings) (u : Conduct) : Nanos :=
  w.clock + min (u.delay w.calls.length .directory) (wholeMillis settings.timeout)

/-- From here on the site asked whether the user is a held applicant, and `held` is what the campus
systems told: the directory, which is asked first, vouches for the user; or else the student record
says that there is only an application. A call that fails tells neither. Nothing else took time. -/
structure Site.Told (w : Site) (settings : Settings) (u : Conduct) (uid : Uid) (held : Bool)
    (after : Site) : Prop where
  directory : after.calls[w.calls.length]? = some ⟨.directory, uid⟩
  vouched : u.Vouches settings.timeout w.calls.length uid →
    after.clock = w.directoryTime settings u
  record : ¬u.Vouches settings.timeout w.calls.length uid →
    after.calls[w.calls.length + 1]? = some ⟨.recordAffiliations, uid⟩ ∧
      after.clock = w.directoryTime settings u +
        min (u.delay (w.calls.length + 1) .recordAffiliations) (wholeMillis settings.timeout)
  held_iff : held = true ↔ ¬u.Vouches settings.timeout w.calls.length uid ∧
    u.ListsApplicant settings.timeout (w.calls.length + 1) uid w.wallClock.date

/-- In this turn the campus systems told whether the user is a held applicant. -/
def Desk.Told (d : Desk) (settings : Settings) (u : Conduct) (t : Turn) (uid : Uid) (held : Bool) :
    Prop :=
  (t.begin d.site).Told settings u uid held (d.turnUnder u settings t).2.site

/-- While these things happened, the campus systems told whether the user is a held applicant, in a
turn in which the directory was done when the clock read `asked`, and everything when it read
`since`. -/
def Desk.ToldIn (d : Desk) (settings : Settings) (occurrences : List Occurrence) (uid : Uid)
    (held : Bool) (asked since : Nanos) : Prop :=
  ∃ before u t later, occurrences = before ++ .turn u t :: later ∧
    (d.through settings before).Told settings u t uid held ∧
    asked = (t.begin (d.through settings before).site).directoryTime settings u ∧
    since = (d.through settings (before ++ [.turn u t])).site.clock

end CampusView
