import CampusView.Proofs.UnderConduct
import CampusView.Proofs.ViewClassification

/-!
# What the modern record tells

While the modern record is hidden, a profile takes three things of it: the given name, the family
name, and whether it belongs to a student of the modern system. All else is the same whatever the
modern system answers, in the profile and in the feeds of delegates and of everybody who views the
site as somebody else (`hidden_modern_tells_nothing`).

A value of the modern record that is not what its field wants should count as absent.
`reconcile_erase_invalid_iff` says when it does: always, unless it is a number in the place of the
id of the modern system, as long as such an id. Nobody takes that number for the id, but it makes
the whole record visible (`reconcile_set_longNumber`).
-/

namespace CampusView

open Json

/-! ### Profiles and feeds without what a hidden record tells -/

/-- The profile without what is taken of a hidden modern record. -/
def Profile.withoutModern (p : Profile) : Profile :=
  { p with givenFirstName := "", familyName := "", isCampusSolutionsStudent := false }

/-- The feed without what is taken of a hidden modern record. -/
def UserFeed.withoutModern (f : UserFeed) : UserFeed :=
  { f with givenFirstName := "", givenFullName := "", isCampusSolutionsStudent := false }

/-- What a feed takes of a hidden modern record, it takes of these members of the profile. -/
theorem withoutModern_compose (i : FeedInputs) {p q : Profile}
    (h : p.withoutModern = q.withoutModern) :
    (compose { i with profile := p }).withoutModern =
      (compose { i with profile := q }).withoutModern := by
  have hcompose : ∀ r : Profile, (compose { i with profile := r }).withoutModern =
      (compose { i with profile := r.withoutModern }).withoutModern := fun _ => rfl
  rw [hcompose p, hcompose q, h]

section

variable {ctx : ViewContext} {modern : Lookup AttributeBag}

theorem sisProfileVisible_notFound (h : sisProfileVisible ctx modern = false) :
    sisProfileVisible ctx .notFound = false := by
  have hstudent : isCampusSolutionsStudent .notFound = false := rfl
  rw [sisProfileVisible] at h ⊢
  rw [hstudent]
  revert h
  cases ctx.flags.csProfile && !ctx.viewAs <;>
    cases ctx.flags.csProfileVisibleForLegacyUsers <;> simp

theorem visibleModern?_of_hidden (h : sisProfileVisible ctx modern = false)
    (legacy : Lookup AttributeBag) (crosswalk : Lookup CorrelatedIds) :
    SourceAnswers.visibleModern? ⟨legacy, modern, crosswalk⟩ ctx = none := by
  rw [SourceAnswers.visibleModern?, h]
  rfl

/-- A hidden modern record makes the same profile as none. -/
theorem withoutModern_reconcile (uid : Uid) (legacy : Lookup AttributeBag)
    (crosswalk : Lookup CorrelatedIds) (data : Option UserData)
    (h : sisProfileVisible ctx modern = false) :
    (reconcile uid ⟨legacy, modern, crosswalk⟩ data ctx).withoutModern =
      (reconcile uid ⟨legacy, .notFound, crosswalk⟩ data ctx).withoutModern := by
  have hnotFound := sisProfileVisible_notFound h
  simp only [reconcile, Profile.withoutModern, SourceAnswers.text?, SourceAnswers.value?, h,
    hnotFound, visibleModern?_of_hidden h, visibleModern?_of_hidden hnotFound]

end

/-! ### Composing while campus systems answer -/

/-- The campuses answer alike, but for the modern system. -/
def Campus.AlikeButModern (c d : Campus) : Prop := ∀ s, s ≠ .modern → ∀ uid, c s uid = d s uid

/-- What comes out of the inquiry does not depend on the modern system. -/
def Inquiry.SparesModern (q : Inquiry α) : Prop :=
  ∀ met met' : Nat → Campus, (∀ n, (met n).AlikeButModern (met' n)) →
    q.outcome met = q.outcome met'

namespace Inquiry

theorem sparesModern_pure (a : α) : (pure a : Inquiry α).SparesModern := fun _ _ _ => rfl

theorem sparesModern_ask {s : System} (hs : s ≠ .modern) (uid : Uid) :
    (ask s uid).SparesModern := fun _ _ h => h 0 s hs uid

theorem SparesModern.map {q : Inquiry α} (h : q.SparesModern) (f : α → β) :
    (f <$> q).SparesModern := by
  intro met met' halike
  rw [outcome_map, outcome_map, h met met' halike]

theorem SparesModern.seq {g : Inquiry (α → β)} {q : Inquiry α} (hg : g.SparesModern)
    (hq : q.SparesModern) : (g <*> q).SparesModern := by
  intro met met' halike
  rw [outcome_seq, outcome_seq, hg met met' halike, hq _ _ fun n => halike _]

theorem sparesModern_askIf (wanted : Bool) {s : System} (hs : s ≠ .modern) (uid : Uid) :
    (askIf wanted s uid).SparesModern := by
  cases wanted with
  | true => exact sparesModern_ask hs uid
  | false => exact sparesModern_pure _

theorem sparesModern_askAuthority (auth : Authentication) : (askAuthority auth).SparesModern := by
  unfold askAuthority
  split
  · exact sparesModern_ask (by decide) _
  · exact sparesModern_pure _

theorem sparesModern_resolution (ctx : Context) (settings : Settings) :
    (ctx.resolution settings).SparesModern := by
  unfold Context.resolution
  split
  · exact sparesModern_pure _
  · split
    · refine SparesModern.map ?_ some
      unfold resolve
      split
      · exact ((sparesModern_ask (by decide) _).map _).seq (sparesModern_ask (by decide) _)
      · exact sparesModern_pure _
    · exact sparesModern_pure _

end Inquiry

namespace FeedAnswers

/-- The answers without that of the modern system. -/
def withoutModern (a : FeedAnswers) : FeedAnswers :=
  { a with sources := { a.sources with modern := .notFound } }

/-- All answers but that of the modern system do not depend on it. -/
theorem withoutModern_inquiry (settings : Settings) (ctx : Context) (uid : Uid)
    {met met' : Nat → Campus} (h : ∀ n, (met n).AlikeButModern (met' n)) :
    ((inquiry settings ctx uid).outcome met).withoutModern =
      ((inquiry settings ctx uid).outcome met').withoutModern := by
  have hask : ∀ s, s ≠ .modern → ∀ n, met n s uid = met' n s uid := fun s hs n => h n s hs uid
  have hactor := fun k => Inquiry.sparesModern_askAuthority ctx.auth _ _ fun n => h (k + n)
  have hstudents := fun k => Inquiry.sparesModern_askIf
    (settings.flags.csDelegatedAccess && ctx.auth.isDirect) (by decide : .delegateStudents ≠ _) uid
    _ _ fun n => h (k + n)
  have hresolution := fun k => Inquiry.sparesModern_resolution ctx settings _ _ fun n => h (k + n)
  simp only [inquiry, withoutModern, Inquiry.outcome_seq, Inquiry.outcome_map, Inquiry.outcome_ask,
    hactor, hstudents, hresolution, hask .legacy (by decide), hask .crosswalk (by decide),
    hask .courseHistory (by decide), hask .linkedAccounts (by decide)]

/-- In a view of somebody else the modern system tells nothing else of a feed. -/
theorem withoutModern_feed {a b : FeedAnswers} (hanswers : a.withoutModern = b.withoutModern)
    {flags : FeatureFlags} {auth : Authentication}
    (hview : (ViewContext.of flags auth).viewAs = true) (uid : Uid) (data : Option UserData) :
    (a.feed flags auth uid data).withoutModern = (b.feed flags auth uid data).withoutModern := by
  have hnone : ∀ c : FeedAnswers, (c.feed flags auth uid data).withoutModern =
      (c.withoutModern.feed flags auth uid data).withoutModern := fun c =>
    withoutModern_compose { profile := reconcile uid c.sources data (.of flags auth), auth, .. }
      (withoutModern_reconcile uid c.sources.legacy c.sources.crosswalk data
        (sisProfileVisible_of_viewAs hview c.sources.modern))
  rw [hnone a, hnone b, hanswers]

end FeedAnswers

/-! ### A hidden record -/

/-- **A hidden modern record tells nothing but given name, family name and whether it belongs to a
student of the modern system.** The rest of a profile is the same for any two modern answers that
are hidden. In the view of a delegate, or of anybody who views the site as somebody else, the rest
of a feed is the same for any two modern answers, whatever else it is composed of; so it is in a
request whose campus systems behave alike but for the modern one. -/
theorem hidden_modern_tells_nothing (uid : Uid) (legacy : Lookup AttributeBag)
    (crosswalk : Lookup CorrelatedIds) (data : Option UserData)
    (modern modern' : Lookup AttributeBag) :
    (∀ ctx, sisProfileVisible ctx modern = false → sisProfileVisible ctx modern' = false →
      (reconcile uid ⟨legacy, modern, crosswalk⟩ data ctx).withoutModern =
        (reconcile uid ⟨legacy, modern', crosswalk⟩ data ctx).withoutModern) ∧
      (∀ (flags : FeatureFlags) (i : FeedInputs),
        i.auth.isDelegateView = true ∨ i.auth.isViewingAs = true →
        (compose { i with
            profile := reconcile uid ⟨legacy, modern, crosswalk⟩ data (.of flags i.auth)
          }).withoutModern =
          (compose { i with
            profile := reconcile uid ⟨legacy, modern', crosswalk⟩ data (.of flags i.auth)
          }).withoutModern) ∧
      ∀ (settings : Settings) (ctx : Context) (u u' : Conduct) (w : Site),
        ctx.auth.isDelegateView = true ∨ ctx.auth.isViewingAs = true →
        (∀ n, (u.answers settings.timeout n).AlikeButModern (u'.answers settings.timeout n)) →
        ((composeFeed settings ctx uid).runUnder u w).1.feed.withoutModern =
          ((composeFeed settings ctx uid).runUnder u' w).1.feed.withoutModern := by
  have hviewAs : ∀ (flags : FeatureFlags) (auth : Authentication),
      auth.isDelegateView = true ∨ auth.isViewingAs = true →
      (ViewContext.of flags auth).viewAs = true := by
    intro flags auth hview
    exact ((auth.hidesModern_iff.2 hview.symm) flags).1
  refine ⟨?_, ?_, ?_⟩
  · intro ctx h h'
    rw [withoutModern_reconcile uid legacy crosswalk data h,
      withoutModern_reconcile uid legacy crosswalk data h']
  · intro flags i hview
    have hhidden := sisProfileVisible_of_viewAs (hviewAs flags i.auth hview)
    have hprofile := (withoutModern_reconcile uid legacy crosswalk data (hhidden modern)).trans
      (withoutModern_reconcile uid legacy crosswalk data (hhidden modern')).symm
    exact withoutModern_compose i hprofile
  · intro settings ctx u u' w hview halike
    have hflags := hviewAs settings.flags ctx.auth hview
    have hmeets : ∀ n, (w.meets u settings.timeout n).AlikeButModern
        (w.meets u' settings.timeout n) := fun n => halike _
    have hanswers := FeedAnswers.withoutModern_inquiry settings ctx uid hmeets
    exact FeedAnswers.withoutModern_feed hanswers hflags uid _

/-- A modern record with names, an id and a role. -/
def modernAdvisor : AttributeBag where
  value?
    | .personName => some (.string "Sid Vicious")
    | .givenName => some (.string "John")
    | .campusSolutionsId => some (.string "1234567890")
    | _ => none
  roles := .ofList [.advisor]

/-- A campus where nothing is known but what the modern system answers about a student. -/
def modernOnly (answer : Lookup AttributeBag) : Campus :=
  (∅ : Campus).set .modern ⟨"61889"⟩ answer

/-- A delegate is told the given name and that there is a modern record, and nothing else. -/
theorem hidden_modern_tells_nothing_delegate :
    let auth : Authentication := { userId := some ⟨"61889"⟩, delegateViewer := some ⟨"1000"⟩ }
    let ctx := ViewContext.of {} auth
    let known := reconcile ⟨"61889"⟩ ⟨.notFound, .found modernAdvisor, .notFound⟩ none ctx
    let unknown := reconcile ⟨"61889"⟩ ⟨.notFound, .errored "503", .notFound⟩ none ctx
    let composed := fun answer => ((composeFeed {} { auth } ⟨"61889"⟩).runUnder
      (.steady (modernOnly answer) fun _ => 0) (Site.prompt ∅)).1.feed.withoutModern
    sisProfileVisible ctx (.found modernAdvisor) = false ∧
      sisProfileVisible ctx (.errored "503") = false ∧
      known.withoutModern = unknown.withoutModern ∧
      known.givenFirstName ≠ unknown.givenFirstName ∧
      known.isCampusSolutionsStudent ≠ unknown.isCampusSolutionsStudent ∧
      (auth.isDelegateView = true ∨ auth.isViewingAs = true) ∧
      composed (.found modernAdvisor) = composed (.errored "503") := by
  intro auth ctx known unknown composed
  obtain ⟨hprofile, -, hfeed⟩ := hidden_modern_tells_nothing ⟨"61889"⟩ .notFound .notFound none
    (.found modernAdvisor) (.errored "503")
  have halike : ∀ answer n, ((Conduct.steady (modernOnly answer) fun _ => 0).answers
      (Settings.timeout {}) n).AlikeButModern
      ((Conduct.steady ∅ fun _ => 0).answers (Settings.timeout {}) n) := by
    intro answer n s hs uid
    simp [Conduct.answers, Conduct.steady, Campus.within, modernOnly, Campus.set, hs]
  have hcomposed : ∀ answer, composed answer = _ := fun answer =>
    hfeed {} { auth } _ _ _ (.inl rfl) (halike answer)
  exact ⟨rfl, rfl, hprofile ctx rfl rfl, by decide, by decide, .inl rfl,
    (hcomposed _).trans (hcomposed _).symm⟩

/-! ### Values that are not what their fields want -/

namespace AttributeBag

/-- The bag without the value of a field. -/
def erase (b : AttributeBag) (f : Field) : AttributeBag :=
  { b with value? := fun g => if g = f then none else b.value? g }

theorem get?_erase (b : AttributeBag) (f g : Field) :
    (b.erase f).get? g = if g = f then none else b.get? g := by
  by_cases h : g = f <;> simp [erase, get?, h]

end AttributeBag

/-- The value is a number, and as it is written as long as an id of the modern system. -/
def isLongNumber : Value → Bool
  | .number n => isCampusSolutionsId n.toText
  | _ => false

section

variable {bag : AttributeBag} {f : Field} {v : Value} {e : InvalidAttribute}

/-- An invalid value is no value of a field. -/
theorem validValue?_erase (hv : bag.value? f = some v) (hinvalid : validate f v = .error e)
    (g : Field) :
    SourceAnswers.validValue? (some (bag.erase f)) g = SourceAnswers.validValue? (some bag) g := by
  simp only [SourceAnswers.validValue?, Option.bind_eq_bind, Option.bind_some,
    AttributeBag.get?_erase]
  by_cases hg : g = f
  · subst hg
    rw [if_pos rfl, Option.bind_none, eq_comm, Option.bind_eq_none_iff]
    intro w hw
    obtain ⟨hw, -⟩ := Option.filter_eq_some_iff.1 hw
    obtain rfl := Option.some.inj (hv.symm.trans hw)
    rw [hinvalid]
    rfl
  · rw [if_neg hg]

theorem isCampusSolutionsStudent_found (bag : AttributeBag) :
    isCampusSolutionsStudent (.found bag) =
      ((bag.get? .campusSolutionsId).bind scalarText?).any isCampusSolutionsId := rfl

theorem isCampusSolutionsStudent_erase_self :
    isCampusSolutionsStudent (.found (bag.erase .campusSolutionsId)) = false := by
  rw [isCampusSolutionsStudent_found, AttributeBag.get?_erase, if_pos rfl]
  rfl

theorem isCampusSolutionsStudent_erase_of_ne (hf : f ≠ .campusSolutionsId) :
    isCampusSolutionsStudent (.found (bag.erase f)) = isCampusSolutionsStudent (.found bag) := by
  rw [isCampusSolutionsStudent_found, AttributeBag.get?_erase, if_neg hf.symm,
    isCampusSolutionsStudent_found]

/-- An invalid value in the place of the id of the modern system makes a student of that system
exactly if it is a long number. -/
theorem isCampusSolutionsStudent_of_invalid (hv : bag.value? .campusSolutionsId = some v)
    (hinvalid : validate .campusSolutionsId v = .error e) :
    isCampusSolutionsStudent (.found bag) = isLongNumber v := by
  rw [isCampusSolutionsStudent_found, AttributeBag.get?, hv]
  cases v with
  | string s =>
    have hblank : Text.isBlankText s = true := by
      cases hs : Text.isBlankText s with
      | true => rfl
      | false => simp [validate, Field.format, Format.admits, hs] at hinvalid
    show (scalarText? (.string s)).any isCampusSolutionsId = false
    simp [scalarText?, hblank]
  | _ => rfl

/-- What is taken of a modern record are its valid values, its roles, and whether it belongs to a
student of the modern system. -/
theorem reconcile_congr_modern {bag' : AttributeBag}
    (hvalues : ∀ g, SourceAnswers.validValue? (some bag') g =
      SourceAnswers.validValue? (some bag) g)
    (hroles : bag'.roles = bag.roles)
    (hstudent : isCampusSolutionsStudent (.found bag') = isCampusSolutionsStudent (.found bag))
    (uid : Uid) (legacy : Lookup AttributeBag) (crosswalk : Lookup CorrelatedIds)
    (data : Option UserData) (ctx : ViewContext) :
    reconcile uid ⟨legacy, .found bag', crosswalk⟩ data ctx =
      reconcile uid ⟨legacy, .found bag, crosswalk⟩ data ctx := by
  have hvisible : sisProfileVisible ctx (.found bag') = sisProfileVisible ctx (.found bag) := by
    rw [sisProfileVisible, sisProfileVisible, hstudent]
  simp only [reconcile, SourceAnswers.text?, SourceAnswers.value?, SourceAnswers.modernText?,
    SourceAnswers.visibleModern?, hvisible, hstudent, Lookup.found?, hvalues]
  cases sisProfileVisible ctx (.found bag) <;> simp [hvalues, hroles]

/-- **An invalid value of the modern record counts as absent, unless it is a long number in the
place of the id of the modern system.** The profile is then the same in every member as without the
value, and otherwise it is not. -/
theorem reconcile_erase_invalid_iff (uid : Uid) (legacy : Lookup AttributeBag)
    (crosswalk : Lookup CorrelatedIds) (data : Option UserData) (ctx : ViewContext)
    (hv : bag.value? f = some v) (hinvalid : validate f v = .error e) :
    reconcile uid ⟨legacy, .found (bag.erase f), crosswalk⟩ data ctx =
        reconcile uid ⟨legacy, .found bag, crosswalk⟩ data ctx ↔
      ¬(f = .campusSolutionsId ∧ isLongNumber v = true) := by
  constructor
  · rintro h ⟨rfl, hlong⟩
    have hstudent := congrArg Profile.isCampusSolutionsStudent h
    change isCampusSolutionsStudent (.found (bag.erase .campusSolutionsId)) =
      isCampusSolutionsStudent (.found bag) at hstudent
    rw [isCampusSolutionsStudent_erase_self, isCampusSolutionsStudent_of_invalid hv hinvalid,
      hlong] at hstudent
    cases hstudent
  · intro h
    apply reconcile_congr_modern (validValue?_erase hv hinvalid) rfl
    by_cases hf : f = .campusSolutionsId
    · subst hf
      have hlong : isLongNumber v = false := Bool.eq_false_iff.2 fun hlong => h ⟨rfl, hlong⟩
      rw [isCampusSolutionsStudent_erase_self, isCampusSolutionsStudent_of_invalid hv hinvalid,
        hlong]
    · exact isCampusSolutionsStudent_erase_of_ne hf

end

/-- The answer of a modern system that fails, in the place of a name. -/
theorem reconcile_erase_invalid_errorPayload :
    let payload := Value.object [("statusCode", .ofNat 503)]
    let bag := modernAdvisor.set .personName payload
    bag.value? .personName = some payload ∧
      validate .personName payload = .error ⟨.personName, payload⟩ ∧
      reconcile ⟨"61889"⟩ ⟨.notFound, .found (bag.erase .personName), .notFound⟩ none ⟨{}, false⟩ =
        reconcile ⟨"61889"⟩ ⟨.notFound, .found bag, .notFound⟩ none ⟨{}, false⟩ := by
  intro payload bag
  have hv : bag.value? .personName = some payload := rfl
  have hinvalid : validate .personName payload = .error ⟨.personName, payload⟩ := rfl
  refine ⟨hv, hinvalid, (reconcile_erase_invalid_iff _ _ _ _ _ hv hinvalid).2 ?_⟩
  rintro ⟨hf, -⟩
  cases hf

/-- A number in the place of the id is no id, and still the record is that of a student of the
modern system: its name is shown, which it is not without the number. -/
theorem reconcile_set_longNumber :
    let id := Value.ofNat 1234567890
    let bag := modernAdvisor.set .campusSolutionsId id
    let known := reconcile ⟨"61889"⟩ ⟨.notFound, .found bag, .notFound⟩ none ⟨{}, false⟩
    let unknown :=
      reconcile ⟨"61889"⟩ ⟨.notFound, .found (bag.erase .campusSolutionsId), .notFound⟩ none
        ⟨{}, false⟩
    bag.value? .campusSolutionsId = some id ∧
      validate .campusSolutionsId id = .error ⟨.campusSolutionsId, id⟩ ∧
      known.campusSolutionsId = none ∧
      known.isCampusSolutionsStudent = true ∧ unknown.isCampusSolutionsStudent = false ∧
      known.sisProfileVisible = true ∧ unknown.sisProfileVisible = false ∧
      known.preferredName = "Sid Vicious" ∧ unknown.preferredName = "" := by
  intro id bag known unknown
  exact ⟨rfl, rfl, by decide, by decide, by decide, by decide, by decide, by decide, by decide⟩

end CampusView
