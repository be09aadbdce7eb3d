import CampusView.Proofs.AffiliationRoles
import CampusView.Proofs.HeldApplicants

/-!
# Applications that have ended

An affiliation is active on a day if it has the active status and has not ended before, and only
active ones give roles. For an application in process the end is not looked at: `applicantInProcess`
finds every application with the active status, also one that ended long ago.

So the two agree but for those whose applications have all ended (`OnlyEndedApplications`), and who
may then be held for an application that is over (`inProcess_agrees_iff`).
-/

namespace CampusView

open Time
open Affiliation (Listed)

namespace Affiliation

/-- The affiliation is an application of active status, whenever it ends. -/
def IsApplication (a : Affiliation) : Prop :=
  a.typeCode? = some "APPLICANT" ∧ a.statusCode? = some activeStatus

/-- The affiliation has an end that can be read and comes before the day. -/
def EndedBefore (today : Date) (a : Affiliation) : Prop :=
  ∃ last, a.endDate? = some last ∧ ¬today ≤ last

end Affiliation

/-- There are applications of active status, and all of them have ended before the day. -/
def OnlyEndedApplications (affiliations : List Affiliation) (today : Date) : Prop :=
  (∃ a ∈ affiliations, a.IsApplication) ∧
    ∀ a ∈ affiliations, a.IsApplication → a.EndedBefore today

section

variable {affiliations : List Affiliation} {today : Date} {a : Affiliation}

/-! ### Two notions of an active application -/

theorem Affiliation.activeOn_iff_not_ended :
    a.ActiveOn today ↔ a.statusCode? = some Affiliation.activeStatus ∧ ¬a.EndedBefore today := by
  refine and_congr_right fun _ => ?_
  constructor
  · rintro hend ⟨last, hlast, hbefore⟩
    exact hbefore (hend last hlast)
  · intro hended last hlast
    by_contra hbefore
    exact hended ⟨last, hlast, hbefore⟩

theorem applicantInProcess_iff :
    applicantInProcess affiliations = true ↔ ∃ a ∈ affiliations, a.IsApplication := by
  simp only [applicantInProcess, List.any_eq_true, Bool.and_eq_true, beq_iff_eq,
    Affiliation.IsApplication]

/-- An application is listed as active if it is one of active status that has not ended. -/
theorem listed_applicant_iff :
    Listed affiliations today "APPLICANT" true ↔
      ∃ a ∈ affiliations, a.IsApplication ∧ ¬a.EndedBefore today := by
  constructor
  · rintro ⟨a, ha, -, hcode, hactive⟩
    obtain ⟨hstatus, hended⟩ := Affiliation.activeOn_iff_not_ended.1 (hactive.1 rfl)
    exact ⟨a, ha, ⟨hcode, hstatus⟩, hended⟩
  · rintro ⟨a, ha, ⟨hcode, hstatus⟩, hended⟩
    refine ⟨a, ha, ⟨by simp [hcode], by simp [hstatus]⟩, hcode, fun _ => ?_, fun _ => rfl⟩
    exact Affiliation.activeOn_iff_not_ended.2 ⟨hstatus, hended⟩

/-- An application that is listed as active is in process, and one that is in process is listed as
active unless all have ended. -/
theorem listed_applicant_iff_inProcess :
    Listed affiliations today "APPLICANT" true ↔
      applicantInProcess affiliations = true ∧ ¬OnlyEndedApplications affiliations today := by
  rw [listed_applicant_iff, applicantInProcess_iff]
  constructor
  · rintro ⟨a, ha, happlication, hended⟩
    exact ⟨⟨a, ha, happlication⟩, fun honly => hended (honly.2 a ha happlication)⟩
  · rintro ⟨hsome, honly⟩
    by_contra hnone
    refine honly ⟨hsome, fun a ha happlication => ?_⟩
    by_contra hended
    exact hnone ⟨a, ha, happlication, hended⟩

theorem OnlyEndedApplications.inProcess (h : OnlyEndedApplications affiliations today) :
    applicantInProcess affiliations = true := applicantInProcess_iff.2 h.1

end

/-! ### Whom it keeps out -/

/-- Somebody is found to be held by what the directory and the student record answer. -/
theorem findHeld_iff (settings : Settings) (u : Conduct) (uid : Uid) (w : Site) :
    ((findHeld settings uid).runUnder u w).1 = true ↔
      ¬u.Vouches settings.timeout w.calls.length uid ∧
        u.ListsApplicant settings.timeout (w.calls.length + 1) uid w.wallClock.date := by
  obtain ⟨held, v, hrun, -, htold⟩ := runUnder_findHeld settings u uid w
  rw [hrun]
  exact htold.held_iff

/-- **When an application in process is an active one.** An application is in process exactly if one
is listed as active on the day, unless there are applications and all have ended. And somebody is
held without an active application exactly if the directory does not vouch for them and their
student record has only ended applications, and nothing that gives them a role. -/
theorem inProcess_agrees_iff (affiliations : List Affiliation) (day : Date) (settings : Settings)
    (u : Conduct) (uid : Uid) (w : Site) :
    ((applicantInProcess affiliations = true ↔ Listed affiliations day "APPLICANT" true) ↔
        ¬OnlyEndedApplications affiliations day) ∧
      let record := u.answers settings.timeout (w.calls.length + 1) .recordAffiliations uid
      let today := w.wallClock.date
      (((findHeld settings uid).runUnder u w).1 = true ∧
          ¬∃ affiliations, record = .found affiliations ∧
            Listed affiliations today "APPLICANT" true) ↔
        ¬u.Vouches settings.timeout w.calls.length uid ∧
          ∃ affiliations, record = .found affiliations ∧
            OnlyEndedApplications affiliations today ∧
            (classifyAt affiliations today).isEmpty = true := by
  constructor
  · rw [listed_applicant_iff_inProcess]
    constructor
    · exact fun hagree honly => (hagree.1 honly.inProcess).2 honly
    · exact fun honly => ⟨fun hprocess => ⟨hprocess, honly⟩, And.left⟩
  · intro record today
    rw [findHeld_iff, and_assoc]
    refine and_congr_right fun _ => ?_
    constructor
    · rintro ⟨⟨affiliations, hfound, hprocess, hempty⟩, hnone⟩
      refine ⟨affiliations, hfound, ?_, hempty⟩
      by_contra honly
      exact hnone ⟨affiliations, hfound, listed_applicant_iff_inProcess.2 ⟨hprocess, honly⟩⟩
    · rintro ⟨affiliations, hfound, honly, hempty⟩
      refine ⟨⟨affiliations, hfound, honly.inProcess, hempty⟩, ?_⟩
      rintro ⟨others, hothers, hlisted⟩
      obtain rfl := Lookup.found.inj (hfound.symm.trans hothers)
      exact (listed_applicant_iff_inProcess.1 hlisted).2 honly

/-- An application that ended in the winter of 2015, and was never closed. -/
def endedApplication : Affiliation where
  type := some { code := some "APPLICANT" }
  status := some { code := some "ACT" }
  toDate := some "2015-12-18"

/-- The next spring the application is not active any more and still in process, and the applicant
is found to be held. -/
theorem endedApplication_held :
    let today : Date := ⟨2016, 3, 1, by decide⟩
    let u := Conduct.steady ((∅ : Campus).set .recordAffiliations ⟨"61889"⟩
      (.found [endedApplication])) fun _ => 0
    let w : Site := { wallClock := ⟨today, ⟨45000, 0, by decide⟩⟩ }
    ¬Listed [endedApplication] today "APPLICANT" true ∧
      applicantInProcess [endedApplication] = true ∧
      ((findHeld {} ⟨"61889"⟩).runUnder u w).1 = true := by
  intro today u w
  have honly : OnlyEndedApplications [endedApplication] today := by
    have happlication : endedApplication.IsApplication := ⟨by decide +kernel, by decide +kernel⟩
    refine ⟨⟨endedApplication, List.mem_singleton_self _, happlication⟩, fun a ha _ => ?_⟩
    obtain rfl := List.mem_singleton.1 ha
    exact ⟨⟨2015, 12, 18, by decide⟩, by decide +kernel, by decide⟩
  refine ⟨fun hlisted => (listed_applicant_iff_inProcess.1 hlisted).2 honly, honly.inProcess, ?_⟩
  rw [findHeld_iff, vouches_iff, listsApplicant_iff]
  decide +kernel

end CampusView
