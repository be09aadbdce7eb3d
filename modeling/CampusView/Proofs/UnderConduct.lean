import CampusView.Conduct
import CampusView.Proofs.KeySpace
import CampusView.Proofs.Outcome
import Mathlib.Data.List.Basic

/-!
# Pages while campus systems change

What requests for the pages of a user are answered while the campus systems behave in some way,
put together from the answers of the single calls. `Site.composition` is the status feed that a
request composes, and `Site.page` the academics page before a delegate's view of it is cut
(`answer_academicsFeed`).
-/

namespace CampusView

open Json Time

/-- An action adds its calls to those of the site. -/
theorem Action.calls_stepUnder (u : Conduct) (action : Action α) (w : Site) :
    ∃ more, (action.stepUnder u w).2.calls = w.calls ++ more := by
  cases action with
  | inquire limit q => exact ⟨q.calls, rfl⟩
  | readClock =>
    obtain ⟨t, ht⟩ := step_readClock w
    refine ⟨[], ?_⟩
    show (Action.readClock.step w).2.calls = _
    rw [ht, List.append_nil]
  | _ => exact ⟨[], (List.append_nil _).symm⟩

/-- A program adds its calls to those of the site. -/
theorem Program.calls_runUnder (u : Conduct) (p : Program α) (w : Site) :
    ∃ more, (p.runUnder u w).2.calls = w.calls ++ more := by
  induction p generalizing w with
  | done a => exact ⟨[], (List.append_nil _).symm⟩
  | act action next ih =>
    obtain ⟨more, hmore⟩ := action.calls_stepUnder u w
    obtain ⟨rest, hrest⟩ := ih (action.stepUnder u w).1 (action.stepUnder u w).2
    refine ⟨more ++ rest, ?_⟩
    rw [runUnder, hrest, hmore, List.append_assoc]

/-- A call that was made stays the call of its number. -/
theorem Program.getElem?_calls_runUnder (u : Conduct) (p : Program α) {w : Site} {n : Nat}
    {call : Call} (h : w.calls[n]? = some call) : (p.runUnder u w).2.calls[n]? = some call := by
  obtain ⟨more, hmore⟩ := p.calls_runUnder u w
  rw [hmore, List.getElem?_append_left (List.getElem?_eq_some_iff.1 h).1, h]

/-! ### The status feed -/

/-- What the delegate may see is asked for behind some other calls. -/
theorem FeedAnswers.inquiry_resolution (settings : Settings) (ctx : Context) (uid : Uid) :
    ∃ before, (inquiry settings ctx uid).calls = before ++ (ctx.resolution settings).calls ∧
      ∀ met, ((inquiry settings ctx uid).outcome met).resolution =
        (ctx.resolution settings).outcome fun n => met (before.length + n) :=
  ⟨_, rfl, fun _ => rfl⟩

section

variable (settings : Settings) (u : Conduct) (ctx : Context) (uid : Uid) (w : Site)

/-- What is composed for a request while the campus systems behave in some way. -/
def Site.composition : Composition :=
  let answers := (FeedAnswers.inquiry settings ctx uid).outcome (w.meets u settings.timeout)
  { feed := answers.feed settings.flags ctx.auth uid (w.store.data? uid)
    degraded := answers.isDegraded || !(w.store.get uid).isOk
    resolution := answers.resolution }

theorem Site.regular_composition : (w.composition settings u ctx uid).feed.Regular :=
  FeedAnswers.regular_feed ..

/-- The site after the campus systems were asked for a feed. -/
def Site.asked : Site :=
  (w.inquireUnder u settings.timeout (FeedAnswers.inquiry settings ctx uid)).2

theorem runUnder_composeFeed :
    (composeFeed settings ctx uid).runUnder u w =
      (w.composition settings u ctx uid, w.asked settings u ctx uid) := rfl

/-- A stamp asks no campus system. -/
theorem runUnder_stamp (key hash : String) :
    (stamp key hash).runUnder u w = (stamp key hash).runBy Cache.read w ∧
      ((stamp key hash).runUnder u w).2.calls = w.calls := by
  simp only [stamp, Program.cached, Program.runUnder_bind, Program.runBy_bind,
    Program.runUnder_perform, Program.runBy_perform, Program.runUnder_pure, Program.runBy_pure,
    Action.stepUnder, Action.stepBy, Action.step]
  split
  · exact ⟨rfl, rfl⟩
  · simp only [Program.remember, Program.runUnder_bind, Program.runBy_bind,
      Program.runUnder_perform, Program.runBy_perform, Program.runUnder_pure, Program.runBy_pure,
      Action.stepUnder, Action.stepBy, Action.step, and_self]

/-- How long a composed feed is kept. -/
def Composition.ttl (c : Composition) (settings : Settings) : Nanos :=
  if c.degraded then settings.failureTtl else settings.cacheTtl

/-- The site after a feed was composed and kept. -/
def Site.composedFor : Site :=
  let c := w.composition settings u ctx uid
  let v := w.asked settings u ctx uid
  { v with
    cache := v.cache.write v.clock (Cache.Key.status uid (viewKey ctx.auth)) (encodeText c.feed)
      (c.ttl settings) }

end

section

variable {settings : Settings} {u : Conduct} {ctx : Context} {uid : Uid} {w : Site}

/-- A request that finds no feed in the cache composes one and keeps it. -/
theorem runUnder_currentFeed_miss
    (hmiss : (w.cache.read w.clock (Cache.Key.status uid (viewKey ctx.auth))).bind
      (decodeText? (α := UserFeed)) = none) :
    let c := w.composition settings u ctx uid
    (currentFeed settings ctx uid).runUnder u w =
      ((c.feed, ctx.settle c.resolution), w.composedFor settings u ctx uid) := by
  simp only [currentFeed, Program.cached, Program.runUnder_bind, Program.runUnder_perform,
    Action.stepUnder, Action.step, Program.runUnder_pure, hmiss, runUnder_composeFeed,
    Program.remember]
  rfl

theorem runUnder_currentFeed_hit {feed : UserFeed}
    (hhit : (w.cache.read w.clock (Cache.Key.status uid (viewKey ctx.auth))).bind
      (decodeText? (α := UserFeed)) = some feed) :
    (currentFeed settings ctx uid).runUnder u w = ((feed, ctx), w) := by
  simp only [currentFeed, Program.cached, Program.runUnder_bind, Program.runUnder_perform,
    Action.stepUnder, Action.step, Program.runUnder_pure, hhit]

/-- A feed that was composed and kept can be read while its time lasts. -/
theorem read_composedFor {t : Nanos} (ht : (w.composedFor settings u ctx uid).clock ≤ t) :
    (w.composedFor settings u ctx uid).cache.read t (Cache.Key.status uid (viewKey ctx.auth)) =
      let c := w.composition settings u ctx uid
      if t < (w.composedFor settings u ctx uid).clock + c.ttl settings
        then some (encodeText c.feed) else none :=
  (Cache.read_write _ _ _ _ _ _ _ ht).trans (if_pos rfl)

/-- A request that finds no feed in the cache is answered with the composed feed, which is kept. -/
theorem runUnder_statusFeed_miss (huid : ctx.auth.userId = some uid)
    (hmiss : (w.cache.read w.clock (Cache.Key.status uid (viewKey ctx.auth))).bind
      (decodeText? (α := UserFeed)) = none) :
    let c := w.composition settings u ctx uid
    ∃ at_ w', (statusFeed settings ctx).runUnder u w =
        ((.ok (c.feed.stamped at_), ctx.settle c.resolution), w') ∧
      w'.calls = (w.asked settings u ctx uid).calls ∧
      ∀ t, w'.clock ≤ t → w'.cache.read t (Cache.Key.status uid (viewKey ctx.auth)) =
        if t < w'.clock + c.ttl settings then some (encodeText c.feed) else none := by
  intro c
  let v := w.composedFor settings u ctx uid
  have hfeed : (currentFeed settings ctx uid).runUnder u w =
      ((c.feed, ctx.settle c.resolution), v) := runUnder_currentFeed_miss hmiss
  obtain ⟨hstamp, hcalls⟩ :=
    runUnder_stamp u v (Cache.Key.stamp uid (viewKey ctx.auth)) (contentHash c.feed)
  obtain ⟨at_, w', hlast, -, hclock, hcache⟩ :=
    runBy_stamp Cache.read (Cache.Key.stamp uid (viewKey ctx.auth)) (contentHash c.feed) v
  rw [hlast] at hstamp
  rw [hstamp] at hcalls
  refine ⟨at_, w', ?_, hcalls, ?_⟩
  · have hkey : (ctx.settle c.resolution).auth = ctx.auth := rfl
    simp only [statusFeed, subject, huid, Program.runUnder_bind, hfeed, hkey, hstamp,
      Program.runUnder_pure, UserFeed.stamped]
  · intro t ht
    rw [hclock] at ht ⊢
    rw [← read_composedFor ht]
    -- the stamp is kept apart from the feed
    rcases hcache with hcache | ⟨text, ttl, hcache⟩
    · rw [hcache]
    · rw [hcache, Cache.read_write _ _ _ _ _ _ _ ht,
        if_neg (Cache.Key.stamp_ne_status _ _ _ _).symm]

/-- A request that finds a feed in the cache is answered with it. -/
theorem runUnder_statusFeed_hit (huid : ctx.auth.userId = some uid) {feed : UserFeed}
    (hhit : (w.cache.read w.clock (Cache.Key.status uid (viewKey ctx.auth))).bind
      (decodeText? (α := UserFeed)) = some feed) :
    (statusFeed settings ctx).runUnder u w =
      let r := (stamp (Cache.Key.stamp uid (viewKey ctx.auth)) (contentHash feed)).runBy
        Cache.read w
      ((.ok { feed with lastModified := some r.1 }, ctx), r.2) := by
  simp only [statusFeed, subject, huid, Program.runUnder_bind, runUnder_currentFeed_hit hhit,
    (runUnder_stamp u w _ _).1, Program.runUnder_pure]

/-! ### The academics page -/

/-- The page of a user as it is kept, or else as the campus system tells it. -/
def Site.page (w : Site) (settings : Settings) (u : Conduct) (uid : Uid) : AcademicsFeed :=
  ((Program.cachedOr (Cache.Key.academics uid) (askAcademics settings uid)).runUnder u
    w).1.toOption.getD {}

/-- The site after it was settled what the delegate of a request may see. -/
def Site.settling (w : Site) (settings : Settings) (u : Conduct) (ctx : Context) :
    Option Resolution × Site :=
  w.inquireUnder u settings.timeout (ctx.resolution settings)

/-- A request for the academics page settles what the delegate may see, and is answered with that
much of the page. -/
theorem answer_academicsFeed (huid : ctx.auth.userId = some uid) :
    let r := w.settling settings u ctx
    ((academicsFeed settings ctx).runUnder u w).1 =
      ((r.2.page settings u uid).shown (r.1.map Resolution.privileges), ctx.settle r.1) := by
  intro r
  have hsettle : w.inquireUnder u settings.timeout (ctx.resolution settings) = r := rfl
  simp only [academicsFeed, subject, huid, Program.runUnder_bind, Program.runUnder_perform,
    Action.stepUnder, hsettle]
  by_cases hall : (r.1.map Resolution.privileges).all PrivilegeSet.grantsAcademics = true
  · simp only [hall, if_true, Program.runUnder_bind]
    rw [AcademicsFeed.shown, Site.page]
    cases AcademicsFeed.compose? _ _ <;> rfl
  · rw [AcademicsFeed.shown_of_all (Bool.eq_false_iff.2 hall), if_neg hall]
    rfl

/-- A call by which it was settled what the delegate may see stays the call of its number. -/
theorem getElem?_calls_academicsFeed (huid : ctx.auth.userId = some uid) {n : Nat} {call : Call}
    (h : (w.settling settings u ctx).2.calls[n]? = some call) :
    ((academicsFeed settings ctx).runUnder u w).2.calls[n]? = some call := by
  simp only [academicsFeed, subject, huid, Program.runUnder_bind, Program.runUnder_perform,
    Action.stepUnder]
  exact Program.getElem?_calls_runUnder u _ h

end

end CampusView
