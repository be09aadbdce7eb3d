import CampusView.Profile
import CampusView.Proofs.Standing

/-!
# How a session is classified

Whether somebody looks at the site as somebody else is asked in four places. `isDirect` guards what
is written, `viewMode` names the view that a feed is kept for, `isViewingAs` marks the session, and
`ViewContext.of` says whether the modern profile is hidden.

`isDirect` looks at every viewer, and the others look at the viewer who counts. So a viewer who is
the user *masks* another one who is not: then nobody is direct, and still nobody is viewing as
somebody else. `classifications_agree_iff` says that the four agree exactly if no viewer is masked.
-/

namespace CampusView

namespace Authentication

/-- Somebody is signed in, and some viewer is somebody else. -/
def hasOtherViewer (a : Authentication) : Bool :=
  a.userId.any fun uid => a.viewers.any (· != uid)

/-- The viewer who counts is the user, and some viewer is somebody else. -/
def masksViewer (a : Authentication) : Bool :=
  a.hasOtherViewer && a.firstViewer? == a.userId

section

variable (a : Authentication)

theorem isDirect_iff : a.isDirect = true ↔
    ∃ uid, a.userId = some uid ∧ a.ltiOnly = false ∧ ∀ v ∈ a.viewers, v = uid := by
  unfold isDirect
  cases a.userId <;> simp

theorem isDirect_eq :
    a.isDirect = (a.userId.isSome && !a.ltiOnly && !a.hasOtherViewer) := by
  rw [Bool.eq_iff_iff, isDirect_iff]
  cases huid : a.userId with
  | none => simp
  | some uid => simp [hasOtherViewer, huid]

/-- Whoever views the site as somebody else is a viewer who is not masked. -/
theorem isViewingAs_eq : a.isViewingAs = (a.hasOtherViewer && !a.masksViewer) := by
  cases huid : a.userId with
  | none => simp [isViewingAs, hasOtherViewer, huid]
  | some uid =>
    cases hviewers : a.viewers with
    | nil => simp [isViewingAs, hasOtherViewer, firstViewer?, huid, hviewers]
    | cons viewer others =>
      by_cases hv : viewer = uid
      · simp [isViewingAs, masksViewer, firstViewer?, huid, hviewers, hv]
      · have hother : a.hasOtherViewer = true := by simp [hasOtherViewer, huid, hviewers, hv]
        have hviewer : (viewer == uid) = false := beq_false_of_ne hv
        simp [isViewingAs, masksViewer, firstViewer?, huid, hviewers, hother, bne, hviewer]

theorem viewMode_eq_directlyAuthenticated_iff :
    a.viewMode = .directlyAuthenticated ↔
      a.userId.isSome = true ∧ a.ltiOnly = false ∧ a.isViewingAs = false := by
  unfold viewMode
  split_ifs with hnone hview hviewer hadvisor hlti hcanvas
  · rw [Option.isNone_iff_eq_none] at hnone
    simp [hnone]
  all_goals simp_all [Option.isSome_iff_ne_none]

end

variable {a : Authentication}

theorem hasOtherViewer_of_masksViewer (h : a.masksViewer = true) : a.hasOtherViewer = true :=
  (Bool.and_eq_true_iff.1 h).1

theorem isSome_userId_of_hasOtherViewer (h : a.hasOtherViewer = true) :
    a.userId.isSome = true := by
  unfold hasOtherViewer at h
  cases huid : a.userId with
  | none =>
    rw [huid] at h
    cases h
  | some uid => rfl

end Authentication

/-- In a view of somebody else the modern profile is hidden. -/
theorem sisProfileVisible_of_viewAs {ctx : ViewContext} (h : ctx.viewAs = true)
    (modern : Lookup AttributeBag) : sisProfileVisible ctx modern = false := by
  rw [sisProfileVisible, h, Bool.not_true, Bool.and_false, Bool.false_and]

/-- The modern profile is hidden, whatever the flags are and whatever the modern system answers. -/
def Authentication.HidesModern (a : Authentication) : Prop :=
  ∀ flags, (ViewContext.of flags a).viewAs = true ∧
    ∀ modern, sisProfileVisible (.of flags a) modern = false

theorem Authentication.hidesModern_iff (a : Authentication) :
    a.HidesModern ↔ a.isViewingAs = true ∨ a.isDelegateView = true := by
  rw [← Bool.or_eq_true]
  exact ⟨fun h => (h {}).1, fun h flags => ⟨h, sisProfileVisible_of_viewAs h⟩⟩

/-- **The classifications of a session agree exactly if no viewer is masked.** Somebody is viewing
the site as somebody else by `isViewingAs`, and by `viewMode`, exactly if some viewer is somebody
else, unless that one is masked. `viewMode` tells who is direct, unless only the learning system
vouches for the user or a viewer is masked. Wherever a viewer is somebody else the modern profile is
hidden, unless that one is masked and no delegate. -/
theorem classifications_agree_iff (a : Authentication) :
    ((a.viewMode = .directlyAuthenticated ↔ a.isDirect = true) ↔
        (a.masksViewer && !a.ltiOnly) = false) ∧
      ((a.viewMode.isViewingAs = true ↔ a.hasOtherViewer = true) ↔ a.masksViewer = false) ∧
      ((a.isViewingAs = true ↔ a.hasOtherViewer = true) ↔ a.masksViewer = false) ∧
      ((a.hasOtherViewer = true → a.HidesModern) ↔
        (a.masksViewer && !a.isDelegateView) = false) := by
  rw [a.viewMode_eq_directlyAuthenticated_iff, a.isDirect_eq, a.isViewingAs_viewMode,
    a.hidesModern_iff, a.isViewingAs_eq]
  cases hmasks : a.masksViewer with
  | false =>
    cases a.ltiOnly <;> simp +contextual
  | true =>
    -- whoever is masked is somebody else, so nobody is direct or viewing
    have hother := Authentication.hasOtherViewer_of_masksViewer hmasks
    have huser := Authentication.isSome_userId_of_hasOtherViewer hother
    cases a.ltiOnly <;> simp [hother, huser]

/-- Somebody is signed in whose first viewer is themselves and whose second one is an advisor. -/
def maskedAdvisor : Authentication where
  userId := some ⟨"61889"⟩
  viewer := some ⟨"61889"⟩
  advisorViewer := some ⟨"2040"⟩

/-- The advisor looks at the site as somebody else, cannot write, and is classified as the user, to
whom the modern profile is shown. -/
theorem classifications_disagree :
    maskedAdvisor.hasOtherViewer = true ∧ maskedAdvisor.isDirect = false ∧
      maskedAdvisor.viewMode = .directlyAuthenticated ∧ maskedAdvisor.isViewingAs = false ∧
      (ViewContext.of {} maskedAdvisor).viewAs = false ∧
      sisProfileVisible (.of {} maskedAdvisor)
        (.found (AttributeBag.empty.set .campusSolutionsId (.string "1234567890"))) = true := by
  decide

end CampusView
