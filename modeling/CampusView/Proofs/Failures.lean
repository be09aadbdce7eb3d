import CampusView.Proofs.UnderConduct

/-!
# Feeds while campus systems fail

A campus system may fail in any call, and the store may be unable to read what it keeps. A request
for a status feed that finds none in the cache composes one all the same. To *forgive* a failure is
to take it as knowing nobody.

* `Inquiry.Fails` says that a call of an inquiry fails. An inquiry is `Candid` if what comes out of
  it tells that, and forgives whatever the campus forgives.
* The answers that make a feed are degraded exactly if a call failed (`isDegraded_iff`), and what
  failed makes the same feed as what is forgiven (`FeedAnswers.feed_forgiven`).
* So a failure makes no difference but for how long the feed is kept (`statusFeed_of_miss`).
-/

namespace CampusView

open Json Time

/-! ### Forgiving -/

/-- A failure counts as knowing nobody. -/
def Lookup.forgiven : Lookup α → Lookup α
  | errored _ => notFound
  | answer => answer

@[simp] theorem Lookup.found?_forgiven (l : Lookup α) : l.forgiven.found? = l.found? := by
  cases l <;> rfl

/-- A campus where every failure counts as knowing nobody. -/
def Campus.forgiven (c : Campus) : Campus := fun s uid => (c s uid).forgiven

/-- The campus systems know nobody where they would fail or take too long, and take no time. -/
def Conduct.forgiven (u : Conduct) (limit : Nanos) : Conduct where
  campus n := (u.answers limit n).forgiven
  delay _ _ := 0

theorem Conduct.answers_forgiven (u : Conduct) (limit : Nanos) (n : Nat) :
    (u.forgiven limit).answers limit n = (u.answers limit n).forgiven :=
  Campus.within_no_delay _ limit

/-- Rows that cannot be read are dropped. -/
def Store.forgiven (s : Store) : Store :=
  ⟨fun uid => (s.row? uid).filter fun row => (row.read uid).isOk⟩

theorem Store.get_forgiven (s : Store) (uid : Uid) : s.forgiven.get uid = .ok (s.data? uid) := by
  cases hrow : s.row? uid with
  | none =>
    have hforgiven : s.forgiven.row? uid = none := by simp [forgiven, hrow]
    rw [get, hforgiven, data?_of_none hrow]
  | some row =>
    rw [data?_of_some hrow]
    cases hread : row.read uid with
    | error fault =>
      have hforgiven : s.forgiven.row? uid = none := by
        simp [forgiven, hrow, hread, Except.isOk, Except.toBool]
      rw [get, hforgiven]
      rfl
    | ok data =>
      have hforgiven : s.forgiven.row? uid = some row := by
        simp [forgiven, hrow, hread, Except.isOk, Except.toBool]
      simp only [get, hforgiven, hread]
      rfl

theorem Store.data?_forgiven (s : Store) (uid : Uid) : s.forgiven.data? uid = s.data? uid := by
  rw [data?, get_forgiven]
  rfl

/-! ### Inquiries that fail -/

namespace Inquiry

/-- A call of the inquiry fails. -/
def Fails (q : Inquiry α) (met : Nat → Campus) : Prop :=
  ∃ n call, q.calls[n]? = some call ∧ (met n call.system call.uid).isErrored = true

section

variable (f : α → β) (g : Inquiry (α → β)) (q : Inquiry α) (a : α) (met : Nat → Campus)

@[simp] theorem not_fails_pure : ¬(pure a : Inquiry α).Fails met := by
  rintro ⟨n, call, hcall, -⟩
  simp at hcall

@[simp] theorem fails_map : (f <$> q).Fails met ↔ q.Fails met := Iff.rfl

@[simp] theorem fails_ask (s : System) (uid : Uid) :
    (ask s uid).Fails met ↔ (met 0 s uid).isErrored = true := by
  constructor
  · rintro ⟨n, call, hcall, herrored⟩
    rw [calls_ask, List.getElem?_singleton] at hcall
    obtain ⟨rfl, rfl⟩ : n = 0 ∧ call = ⟨s, uid⟩ := by
      split_ifs at hcall with hn
      exact ⟨hn, (Option.some.inj hcall).symm⟩
    exact herrored
  · exact fun herrored => ⟨0, ⟨s, uid⟩, rfl, herrored⟩

/-- Of two inquiries the calls of one of them fail. -/
theorem fails_seq : (g <*> q).Fails met ↔
    g.Fails met ∨ q.Fails fun n => met (g.calls.length + n) := by
  constructor
  · rintro ⟨n, call, hcall, herrored⟩
    rw [calls_seq] at hcall
    by_cases hn : n < g.calls.length
    · rw [List.getElem?_append_left hn] at hcall
      exact .inl ⟨n, call, hcall, herrored⟩
    · obtain ⟨m, rfl⟩ := Nat.exists_eq_add_of_le (Nat.le_of_not_lt hn)
      rw [List.getElem?_append_right (by omega), Nat.add_sub_cancel_left] at hcall
      exact .inr ⟨m, call, hcall, herrored⟩
  · rintro (⟨n, call, hcall, herrored⟩ | ⟨n, call, hcall, herrored⟩)
    · have hn := (List.getElem?_eq_some_iff.1 hcall).1
      refine ⟨n, call, ?_, herrored⟩
      rw [calls_seq, List.getElem?_append_left hn, hcall]
    · refine ⟨g.calls.length + n, call, ?_, herrored⟩
      rw [calls_seq, List.getElem?_append_right (by omega), Nat.add_sub_cancel_left, hcall]

end

/-- What comes out of the inquiry fails exactly if a call does, and is forgiven if the campus
forgives. -/
structure Candid (q : Inquiry (Lookup α)) : Prop where
  fails : ∀ met, q.Fails met ↔ (q.outcome met).isErrored = true
  forgiven : ∀ met : Nat → Campus,
    q.outcome (fun n => (met n).forgiven) = (q.outcome met).forgiven

theorem candid_ask (s : System) (uid : Uid) : (ask s uid).Candid :=
  ⟨fun met => fails_ask met s uid, fun _ => rfl⟩

theorem candid_askIf (wanted : Bool) (s : System) (uid : Uid) : (askIf wanted s uid).Candid := by
  cases wanted with
  | true => exact candid_ask s uid
  | false => exact ⟨fun met => by simp [askIf, Lookup.isErrored], fun _ => rfl⟩

theorem candid_askAuthority (auth : Authentication) : (askAuthority auth).Candid := by
  unfold askAuthority
  split
  · exact candid_ask _ _
  · exact ⟨fun met => by simp [Lookup.isErrored], fun _ => rfl⟩

end Inquiry

/-! ### What the delegate may see -/

/-- It is no longer told whether a campus system failed. -/
def Resolution.forgiven (r : Resolution) : Resolution := { r with degraded := false }

section

variable (ids : Lookup CorrelatedIds) (students : Lookup (List DelegateStudent))

theorem Resolution.degraded_of :
    (Resolution.of ids students).degraded = (ids.isErrored || students.isErrored) := by
  cases ids with
  | found ids =>
    cases hid : ids.campusSolutionsId <;> cases students <;>
      simp [Resolution.of, Lookup.found?, Lookup.isErrored, hid]
  | _ => cases students <;> rfl

theorem Resolution.of_forgiven :
    Resolution.of ids.forgiven students.forgiven = (Resolution.of ids students).forgiven := by
  cases ids with
  | found ids =>
    cases hid : ids.campusSolutionsId <;> cases students <;>
      simp [Resolution.of, Lookup.forgiven, Lookup.found?, Lookup.isErrored, Resolution.forgiven,
        hid]
  | _ => cases students <;> rfl

end

/-- What the delegate may see tells whether a call failed. -/
theorem degraded_resolve (settings : Settings) (met : Nat → Campus) (delegate student : Uid) :
    ((resolve settings delegate student).outcome met).degraded = true ↔
      (resolve settings delegate student).Fails met := by
  unfold resolve
  split
  · have hids := Inquiry.fails_ask met .crosswalk student
    have hstudents := Inquiry.fails_ask (fun n => met (1 + n)) .delegateStudents delegate
    simp [Inquiry.fails_seq, Resolution.degraded_of, hids, hstudents]
  · simp

namespace Context

variable (settings : Settings) (u : Conduct) (auth : Authentication) (settledFrom : Option Nat)
  (met : Nat → Campus)

/-- What is settled for a new request tells whether a call failed. -/
theorem degraded_resolution :
    ((({ auth } : Context).resolution settings).outcome met).any Resolution.degraded = true ↔
      (({ auth } : Context).resolution settings).Fails met := by
  unfold resolution
  cases auth.delegateViewer with
  | none => simp
  | some delegate =>
    cases auth.userId with
    | none => simp
    | some student => simpa using degraded_resolve settings met delegate student

theorem resolution_forgiven :
    (({ auth } : Context).resolution settings).outcome (fun n => (met n).forgiven) =
      ((({ auth } : Context).resolution settings).outcome met).map Resolution.forgiven := by
  unfold resolution resolve
  cases auth.delegateViewer <;> cases auth.userId <;>
    cases settings.flags.csDelegatedAccess <;>
    simp [Campus.forgiven, Resolution.of_forgiven, Resolution.forgiven]

/-- A request that settled what the delegate may see by the calls of the site from some number on,
or has not settled it. -/
def opened : Context where
  auth
  settled := settledFrom.map fun n =>
    (({ auth } : Context).resolution settings).outcome fun i => u.answers settings.timeout (n + i)

@[simp] theorem auth_opened : (opened settings u auth settledFrom).auth = auth := rfl

/-- A call by which it was settled what the delegate may see failed. -/
def SettledInFailure : Prop :=
  ∃ n ∈ settledFrom, (({ auth } : Context).resolution settings).Fails fun i =>
    u.answers settings.timeout (n + i)

theorem degraded_resolution_opened :
    (((opened settings u auth settledFrom).resolution settings).outcome met).any
        Resolution.degraded = true ↔
      ((opened settings u auth settledFrom).resolution settings).Fails met ∨
        SettledInFailure settings u auth settledFrom := by
  cases settledFrom with
  | none => simpa [SettledInFailure, opened] using degraded_resolution settings auth met
  | some n => simpa [SettledInFailure, opened, resolution] using degraded_resolution settings auth _

theorem resolution_opened_forgiven :
    ((opened settings (u.forgiven settings.timeout) auth settledFrom).resolution settings).outcome
        (fun n => (met n).forgiven) =
      (((opened settings u auth settledFrom).resolution settings).outcome met).map
        Resolution.forgiven := by
  cases settledFrom with
  | none => exact resolution_forgiven settings auth met
  | some n =>
    simp only [opened, Option.map_some, resolution, Inquiry.outcome_pure, u.answers_forgiven]
    exact resolution_forgiven settings auth _

end Context

/-! ### The feed -/

namespace FeedAnswers

/-- The answers when every failure counts as knowing nobody. -/
def forgiven (a : FeedAnswers) : FeedAnswers where
  sources := ⟨a.sources.legacy.forgiven, a.sources.modern.forgiven, a.sources.crosswalk.forgiven⟩
  actor := a.actor.forgiven
  history := a.history.forgiven
  accounts := a.accounts.forgiven
  delegateStudents := a.delegateStudents.forgiven
  resolution := a.resolution.map Resolution.forgiven

/-- A failure makes the same feed as knowing nobody. -/
theorem feed_forgiven (a : FeedAnswers) (flags : FeatureFlags) (auth : Authentication) (uid : Uid)
    (data : Option UserData) :
    a.forgiven.feed flags auth uid data = a.feed flags auth uid data := by
  have hprofile : ∀ ctx, reconcile uid a.forgiven.sources data ctx =
      reconcile uid a.sources data ctx := by
    intro ctx
    simp [forgiven, reconcile, SourceAnswers.text?, SourceAnswers.value?,
      SourceAnswers.visibleModern?, SourceAnswers.modernText?, sisProfileVisible,
      isCampusSolutionsStudent]
  have hprivileges : a.forgiven.resolution.map Resolution.privileges =
      a.resolution.map Resolution.privileges := by
    simp only [forgiven, Option.map_map]
    rfl
  simp only [feed, hprofile, hprivileges]
  simp [forgiven]

variable (settings : Settings) (u : Conduct) (auth : Authentication) (settledFrom : Option Nat)
  (uid : Uid) (met : Nat → Campus)

/-- The answers are degraded exactly if a call failed, for the feed or before it. -/
theorem isDegraded_iff :
    ((inquiry settings (.opened settings u auth settledFrom) uid).outcome met).isDegraded = true ↔
      (inquiry settings (.opened settings u auth settledFrom) uid).Fails met ∨
        Context.SettledInFailure settings u auth settledFrom := by
  have hmodern := Inquiry.candid_askIf settings.flags.csProfile .modern uid
  have hactor := Inquiry.candid_askAuthority auth
  have hstudents := Inquiry.candid_askIf (settings.flags.csDelegatedAccess && auth.isDirect)
    .delegateStudents uid
  have hresolution := Context.degraded_resolution_opened settings u auth settledFrom
  simp [inquiry, isDegraded, Inquiry.fails_seq, hresolution, hmodern.fails, hactor.fails,
    hstudents.fails, (Inquiry.candid_ask _ _).fails, or_assoc]

theorem outcome_forgiven :
    (inquiry settings (.opened settings (u.forgiven settings.timeout) auth settledFrom)
        uid).outcome (fun n => (met n).forgiven) =
      ((inquiry settings (.opened settings u auth settledFrom) uid).outcome met).forgiven := by
  have hmodern := Inquiry.candid_askIf settings.flags.csProfile .modern uid
  have hactor := Inquiry.candid_askAuthority auth
  have hstudents := Inquiry.candid_askIf (settings.flags.csDelegatedAccess && auth.isDirect)
    .delegateStudents uid
  have hresolution := Context.resolution_opened_forgiven settings u auth settledFrom
  simp [inquiry, forgiven, hresolution, hmodern.forgiven, hactor.forgiven, hstudents.forgiven,
    Campus.forgiven]

end FeedAnswers

/-! ### Composing -/

/-- Something a feed is made of failed: the store, a call that was made between two states of the
site, or a call by which it was settled before what the delegate may see. -/
def FeedFailed (settings : Settings) (u : Conduct) (auth : Authentication) (uid : Uid)
    (settledFrom : Option Nat) (w w' : Site) : Prop :=
  (w.store.get uid).isOk = false ∨
    (∃ n call, w.calls.length ≤ n ∧ w'.calls[n]? = some call ∧
      (u.answers settings.timeout n call.system call.uid).isErrored = true) ∨
    Context.SettledInFailure settings u auth settledFrom

section

variable (settings : Settings) (u : Conduct) (auth : Authentication) (uid : Uid)
  (settledFrom : Option Nat) (w : Site)

/-- The calls of an inquiry are the next calls of the site. -/
theorem Inquiry.fails_meets_iff (q : Inquiry α) (limit : Nanos) :
    q.Fails (w.meets u limit) ↔ ∃ n call, w.calls.length ≤ n ∧
      (w.inquireUnder u limit q).2.calls[n]? = some call ∧
      (u.answers limit n call.system call.uid).isErrored = true := by
  constructor
  · rintro ⟨n, call, hcall, herrored⟩
    refine ⟨w.calls.length + n, call, Nat.le_add_right _ _, ?_, herrored⟩
    rw [Site.inquireUnder, List.getElem?_append_right (by omega), Nat.add_sub_cancel_left, hcall]
  · rintro ⟨n, call, hn, hcall, herrored⟩
    obtain ⟨m, rfl⟩ := Nat.exists_eq_add_of_le hn
    rw [Site.inquireUnder, List.getElem?_append_right hn, Nat.add_sub_cancel_left] at hcall
    exact ⟨m, call, hcall, herrored⟩

/-- A composition is degraded exactly if something it is made of failed. -/
theorem degraded_composition_iff :
    (w.composition settings u (.opened settings u auth settledFrom) uid).degraded = true ↔
      FeedFailed settings u auth uid settledFrom w
        (w.asked settings u (.opened settings u auth settledFrom) uid) := by
  have hanswers := FeedAnswers.isDegraded_iff settings u auth settledFrom uid
    (w.meets u settings.timeout)
  rw [Inquiry.fails_meets_iff] at hanswers
  rw [Site.composition, Bool.or_eq_true, Bool.not_eq_true', or_comm, FeedFailed]
  exact or_congr Iff.rfl hanswers

/-- What failed makes the same feed as what is forgiven. -/
theorem feed_composition_forgiven :
    (({ w with store := w.store.forgiven } : Site).composition settings
        (u.forgiven settings.timeout)
        (.opened settings (u.forgiven settings.timeout) auth settledFrom) uid).feed =
      (w.composition settings u (.opened settings u auth settledFrom) uid).feed := by
  have hmeets : ({ w with store := w.store.forgiven } : Site).meets
      (u.forgiven settings.timeout) settings.timeout =
        fun n => (w.meets u settings.timeout n).forgiven :=
    funext fun n => u.answers_forgiven settings.timeout _
  simp only [Site.composition, hmeets, FeedAnswers.outcome_forgiven, FeedAnswers.feed_forgiven,
    Store.data?_forgiven, Context.auth_opened]

/-- What a delegate may see is settled from some call on. -/
theorem settle_composition :
    ∃ n, (Context.opened settings u auth settledFrom).settle
        (w.composition settings u (.opened settings u auth settledFrom) uid).resolution =
      .opened settings u auth (some n) := by
  cases settledFrom with
  | some n => exact ⟨n, rfl⟩
  | none =>
    obtain ⟨before, -, hbefore⟩ :=
      FeedAnswers.inquiry_resolution settings (.opened settings u auth none) uid
    refine ⟨w.calls.length + before.length, ?_⟩
    simp only [Site.composition, hbefore, Site.meets, ← Nat.add_assoc]
    rfl

end

/-! ### Answering -/

section

variable (settings : Settings) (u : Conduct) {auth : Authentication} {uid : Uid}
  (settledFrom : Option Nat) {w : Site}

/-- **A failure makes no difference but for how long the feed is kept.** However the campus systems
behave and whatever the store can read, a request that finds no feed in the cache is answered with
one. It is the feed that would be composed if every failure counted as knowing nobody. It is kept
for the time of failures if something that it is made of failed, and else for the usual time. -/
theorem statusFeed_of_miss (huid : auth.userId = some uid)
    (hmiss : (w.cache.read w.clock (Cache.Key.status uid (viewKey auth))).bind
      (decodeText? (α := UserFeed)) = none) :
    ∃ (feed : UserFeed) (at_ : Instant) (from_ : Nat) (w' : Site),
      (statusFeed settings (.opened settings u auth settledFrom)).runUnder u w =
        ((.ok (feed.stamped at_), .opened settings u auth (some from_)), w') ∧
      (∃ at', ((statusFeed settings
          (.opened settings (u.forgiven settings.timeout) auth settledFrom)).runUnder
            (u.forgiven settings.timeout) { w with store := w.store.forgiven }).1.1 =
              .ok (feed.stamped at')) ∧
      ∃ ttl, (FeedFailed settings u auth uid settledFrom w w' → ttl = settings.failureTtl) ∧
        (¬FeedFailed settings u auth uid settledFrom w w' → ttl = settings.cacheTtl) ∧
        ∀ t, w'.clock ≤ t → w'.cache.read t (Cache.Key.status uid (viewKey auth)) =
          if t < w'.clock + ttl then some (encodeText feed) else none := by
  obtain ⟨at_, w', hrun, hcalls, hkept⟩ :=
    @runUnder_statusFeed_miss settings u (.opened settings u auth settledFrom) uid w huid hmiss
  obtain ⟨from_, hsettle⟩ := settle_composition settings u auth uid settledFrom w
  rw [hsettle] at hrun
  obtain ⟨at', w'', hrun', -, -⟩ := @runUnder_statusFeed_miss settings (u.forgiven settings.timeout)
    (.opened settings (u.forgiven settings.timeout) auth settledFrom) uid
    { w with store := w.store.forgiven } huid hmiss
  rw [feed_composition_forgiven] at hrun'
  have hfailed : FeedFailed settings u auth uid settledFrom w w' ↔
      (w.composition settings u (.opened settings u auth settledFrom) uid).degraded = true := by
    rw [degraded_composition_iff, FeedFailed, FeedFailed, hcalls]
  refine ⟨_, at_, from_, w', hrun, ⟨at', congrArg (fun r => r.1.1) hrun'⟩, _, ?_, ?_, hkept⟩
  · intro h
    exact if_pos (hfailed.1 h)
  · intro h
    exact if_neg fun hdegraded => h (hfailed.2 hdegraded)

end

/-- A campus where nothing is known, and where it cannot be told whom a delegate may look at. -/
def unlisted : Campus := (∅ : Campus).set .delegateStudents ⟨"1000"⟩ (.errored "503")

/-- A delegate's request that could not settle what the delegate may see gets a feed, which is kept
for a minute. -/
theorem statusFeed_of_miss_unlisted :
    let auth : Authentication := { userId := some ⟨"61889"⟩, delegateViewer := some ⟨"1000"⟩ }
    let u := Conduct.steady unlisted fun _ => 0
    let w := Site.prompt unlisted
    auth.userId = some ⟨"61889"⟩ ∧
      (w.cache.read w.clock (Cache.Key.status ⟨"61889"⟩ (viewKey auth))).bind
        (decodeText? (α := UserFeed)) = none ∧
      ∃ (feed : UserFeed) (at_ : Instant) (ctx : Context) (w' : Site),
        (statusFeed {} (.opened {} u auth (some 0))).runUnder u w =
          ((.ok (feed.stamped at_), ctx), w') ∧
        ∀ t, w'.clock ≤ t → w'.cache.read t (Cache.Key.status ⟨"61889"⟩ (viewKey auth)) =
          if t < w'.clock + seconds 60 then some (encodeText feed) else none := by
  intro auth u w
  obtain ⟨feed, at_, from_, w', hrun, -, ttl, hfailed, -, hkept⟩ :=
    @statusFeed_of_miss {} u auth ⟨"61889"⟩ (some 0) w rfl rfl
  -- the second of the two calls that settle it is the one that fails
  have hsettled : Context.SettledInFailure {} u auth (some 0) :=
    ⟨0, rfl, 1, ⟨.delegateStudents, ⟨"1000"⟩⟩, rfl, rfl⟩
  rw [hfailed (.inr (.inr hsettled))] at hkept
  exact ⟨rfl, rfl, feed, at_, _, w', hrun, hkept⟩

end CampusView
