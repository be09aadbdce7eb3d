import CampusView.Proofs.Composition
import CampusView.Proofs.KeySpace

/-!
# Views and standing

Feeds of one user are cached apart by `viewKey`, which names how a session looks at the site and who
is at the keyboard. Composing a feed reads more of a session: its delegate, whether somebody signed
in as themselves, and whose authority governs it. Sessions that agree on these have the same
standing, and feeds composed for sessions of the same view and standing are the same
(`freshFeed_congr`).
-/

namespace CampusView

open Json Time

theorem ViewMode.colon_not_mem_name (m : ViewMode) : ':' ∉ m.name.toList := by
  cases m <;> decide

theorem ViewMode.name_injective {m n : ViewMode} (h : m.name = n.name) : m = n := by
  cases m <;> cases n <;> first | rfl | exact absurd h (by decide)

/-- Somebody views the site as somebody else. -/
def ViewMode.isViewingAs : ViewMode → Bool
  | viewingAsAdvisor | viewingAsDelegate | viewingAsPlain => true
  | _ => false

namespace Authentication

/-- The sessions are of one user, and their feeds are cached under one key. -/
structure SameView (a b : Authentication) : Prop where
  signedIn : a.userId.isSome
  user : a.userId = b.userId
  key : viewKey a = viewKey b

/-- The sessions have the same delegate, are direct alike, and the same authority governs them. -/
structure SameStanding (a b : Authentication) : Prop where
  delegate : a.delegateViewer = b.delegateViewer
  direct : a.isDirect = b.isDirect
  authority : a.authority? = b.authority?

theorem isViewingAs_viewMode (a : Authentication) : a.viewMode.isViewingAs = a.isViewingAs := by
  unfold viewMode
  split_ifs with hnone hview hviewer hadvisor hlti hcanvas
  · rw [Option.isNone_iff_eq_none] at hnone
    simp [ViewMode.isViewingAs, isViewingAs, hnone]
  all_goals simp [ViewMode.isViewingAs, hview]

/-- Whoever is signed in, somebody is at the keyboard. -/
theorem exists_realUserId? {a : Authentication} (h : a.userId.isSome) :
    ∃ real, a.realUserId? = some real := by
  obtain ⟨uid, huid⟩ := Option.isSome_iff_exists.1 h
  rw [realUserId?, huid, Option.bind_eq_bind, Option.bind_some]
  cases a.firstViewer? <;> cases a.canvasMasquerade <;> exact ⟨_, rfl⟩

/-- Whoever is signed in, some authority governs the request. -/
theorem exists_authority? {a : Authentication} (h : a.userId.isSome) :
    ∃ authority, a.authority? = some authority := by
  obtain ⟨uid, huid⟩ := Option.isSome_iff_exists.1 h
  rw [authority?, huid, Option.bind_eq_bind, Option.bind_some]
  cases a.firstViewer? <;> exact ⟨_, rfl⟩

/-- The key of a view tells how the session looks at the site, and who is at the keyboard. -/
theorem SameView.viewMode_eq {a b : Authentication} (h : a.SameView b) :
    a.viewMode = b.viewMode ∧ a.realUserId? = b.realUserId? := by
  obtain ⟨real, hreal⟩ := exists_realUserId? h.signedIn
  obtain ⟨real', hreal'⟩ := exists_realUserId? (h.user ▸ h.signedIn)
  have hkey := h.key
  rw [viewKey, viewKey, hreal, hreal'] at hkey
  have hlist := congrArg String.toList hkey
  simp only [String.toList_append, List.append_assoc] at hlist
  obtain ⟨hmode, htext⟩ := Cache.Key.append_sep_inj (ViewMode.colon_not_mem_name _)
    (ViewMode.colon_not_mem_name _) hlist
  exact ⟨ViewMode.name_injective (String.toList_inj.1 hmode),
    by rw [hreal, hreal', String.toList_inj.1 htext]⟩

theorem SameView.isViewingAs_eq {a b : Authentication} (h : a.SameView b) :
    a.isViewingAs = b.isViewingAs := by
  rw [← isViewingAs_viewMode, ← isViewingAs_viewMode, h.viewMode_eq.1]

/-! ### Sessions with one viewer at most -/

/-- At most one viewer, who is not the user. -/
structure Plain (a : Authentication) : Prop where
  one : a.viewers.length ≤ 1
  other : ∀ v ∈ a.viewers, a.userId ≠ some v

/-- The forms of a plain session. -/
theorem Plain.cases {a : Authentication} (h : a.Plain) :
    (a.viewer = none ∧ a.advisorViewer = none ∧ a.delegateViewer = none) ∨
      ∃ v, a.userId ≠ some v ∧
        ((a.viewer = some v ∧ a.advisorViewer = none ∧ a.delegateViewer = none) ∨
          (a.viewer = none ∧ a.advisorViewer = some v ∧ a.delegateViewer = none) ∨
          (a.viewer = none ∧ a.advisorViewer = none ∧ a.delegateViewer = some v)) := by
  obtain ⟨hone, hother⟩ := h
  unfold viewers at hone hother
  cases hv : a.viewer <;> cases ha : a.advisorViewer <;> cases hd : a.delegateViewer <;>
    simp_all

/-- How a plain session looks at the site and who is at the keyboard say what its standing is. -/
theorem Plain.standing {a : Authentication} (h : a.Plain) {uid : Uid} (huid : a.userId = some uid) :
    a.isDirect = decide (a.viewMode = .directlyAuthenticated) ∧
      a.delegateViewer =
        (if a.viewMode = .viewingAsDelegate then a.realUserId?.map Uid.mk else none) ∧
      a.authority? =
        (if a.viewMode.isViewingAs then a.realUserId?.map fun real => .user ⟨real⟩
          else if a.viewMode = .directlyAuthenticated then some (.user uid)
          else some .everybody) := by
  rcases h.cases with ⟨hv, ha, hd⟩ | ⟨v, hne, ⟨hv, ha, hd⟩ | ⟨hv, ha, hd⟩ | ⟨hv, ha, hd⟩⟩
  · cases hlti : a.ltiOnly <;> cases hcanvas : a.canvasMasquerade <;>
      simp [isDirect, viewMode, isViewingAs, authority?, firstViewer?, viewers, huid, hv, ha, hd,
        hlti, hcanvas, ViewMode.isViewingAs]
  all_goals
    have hne' : v ≠ uid := fun h => hne (huid.trans (congrArg some h.symm))
    have hother : (v == uid) = false := beq_false_of_ne hne'
    simp [isDirect, viewMode, isViewingAs, realUserId?, authority?, firstViewer?, viewers, huid, hv,
      ha, hd, hne', hother, isAdvisorView, ViewMode.isViewingAs]

theorem sameStanding_of_plain {a b : Authentication} (ha : a.Plain) (hb : b.Plain)
    (h : a.SameView b) : a.SameStanding b := by
  obtain ⟨uid, huid⟩ := Option.isSome_iff_exists.1 h.signedIn
  obtain ⟨hmode, hreal⟩ := h.viewMode_eq
  obtain ⟨hdirect, hdelegate, hauthority⟩ := ha.standing huid
  obtain ⟨hdirect', hdelegate', hauthority'⟩ := hb.standing (h.user ▸ huid)
  exact ⟨by rw [hdelegate, hdelegate', hmode, hreal], by rw [hdirect, hdirect', hmode],
    by rw [hauthority, hauthority', hmode, hreal]⟩

end Authentication

/-- Feeds composed for sessions of the same view and standing are the same. -/
theorem freshFeed_congr {a b : Authentication} (hview : a.SameView b) (h : a.SameStanding b)
    (settings : Settings) (campus : Campus) (uid : Uid) (data : Option UserData) :
    freshFeed settings campus a uid data = freshFeed settings campus b uid data := by
  have hasked : FeedAnswers.inquiry settings { auth := a } uid =
      FeedAnswers.inquiry settings { auth := b } uid := by
    simp only [FeedAnswers.inquiry, askAuthority, Context.resolution, h.authority, h.direct,
      h.delegate, hview.user]
  have hdelegate : a.isDelegateView = b.isDelegateView := by
    rw [Authentication.isDelegateView, Authentication.isDelegateView, h.delegate]
  unfold freshFeed
  rw [hasked]
  simp only [FeedAnswers.feed, compose, ViewContext.of, isDelegateUser, hasToolboxTab,
    hview.isViewingAs_eq, hdelegate, h.direct]

end CampusView
