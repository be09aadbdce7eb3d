import CampusView.Proofs.CacheEntries
import CampusView.Proofs.FeedCodec
import CampusView.Proofs.KeptData
import CampusView.Service

/-!
# The status feed, cached or composed

`freshFeed` is the status feed of a session as the campus systems answer now and the kept data is
now. A request shows that feed if it composes one, and also if what it reads in the cache is such
a feed (`run_currentFeed`); the stamp beside it carries the hash of the feed (`run_statusFeed`).
-/

namespace CampusView

open Json Time

/-! ### What does not change while feeds are read -/

/-- What the campus systems answer within the time limit. -/
def Site.answers (w : Site) (settings : Settings) : Campus :=
  w.campus.within settings.timeout w.delay

/-- The sites differ in nothing but clocks, cache and the calls that were made. -/
structure Site.Agrees (v w : Site) : Prop where
  store : v.store = w.store
  campus : v.campus = w.campus
  delay : v.delay = w.delay

namespace Site.Agrees

variable {u v w : Site}

theorem refl (w : Site) : w.Agrees w := ⟨rfl, rfl, rfl⟩

theorem trans (h : u.Agrees v) (h' : v.Agrees w) : u.Agrees w :=
  ⟨h.store.trans h'.store, h.campus.trans h'.campus, h.delay.trans h'.delay⟩

theorem answers (h : v.Agrees w) (settings : Settings) :
    v.answers settings = w.answers settings := by
  rw [Site.answers, Site.answers, h.campus, h.delay]

end Site.Agrees

namespace Context

/-- What the delegate of a session may see, by the answers of the campus systems. -/
def freshResolution (settings : Settings) (campus : Campus) (auth : Authentication) :
    Option Resolution :=
  (({ auth } : Context).resolution settings).answer campus

/-- If anything is settled, it is what the campus systems answer. -/
def Sound (settings : Settings) (campus : Campus) (ctx : Context) : Prop :=
  ∀ r ∈ ctx.settled, r = freshResolution settings campus ctx.auth

variable {settings : Settings} {campus : Campus} {ctx : Context}

theorem sound_of_auth (settings : Settings) (campus : Campus) (auth : Authentication) :
    ({ auth } : Context).Sound settings campus :=
  fun _ h => nomatch h

theorem Sound.answer_resolution (h : ctx.Sound settings campus) :
    (ctx.resolution settings).answer campus = freshResolution settings campus ctx.auth := by
  obtain ⟨auth, settled⟩ := ctx
  cases settled with
  | none => rfl
  | some r => exact h r rfl

theorem sound_settle (settings : Settings) (campus : Campus) (ctx : Context) :
    (ctx.settle (freshResolution settings campus ctx.auth)).Sound settings campus := by
  rintro r hr
  exact (Option.some.inj hr).symm

end Context

/-! ### Composing -/

/-- The status feed of a session by these answers and data. -/
def freshFeed (settings : Settings) (campus : Campus) (auth : Authentication) (uid : Uid)
    (data : Option UserData) : UserFeed :=
  ((FeedAnswers.inquiry settings { auth } uid).answer campus).feed settings.flags auth uid data

/-- The feed with the stamp of its content. -/
def UserFeed.stamped (f : UserFeed) (at_ : Instant) : UserFeed :=
  { f with lastModified := some ⟨contentHash f, at_⟩ }

/-- The feed without its stamp. -/
def UserFeed.unstamped (f : UserFeed) : UserFeed := { f with lastModified := none }

/-- The status feed of a session as the site stands. -/
abbrev Site.freshFeed (w : Site) (settings : Settings) (auth : Authentication) (uid : Uid) :
    UserFeed :=
  CampusView.freshFeed settings (w.answers settings) auth uid (w.store.data? uid)

theorem Site.Agrees.freshFeed {v w : Site} (h : v.Agrees w) (settings : Settings)
    (auth : Authentication) (uid : Uid) :
    v.freshFeed settings auth uid = w.freshFeed settings auth uid := by
  rw [Site.freshFeed, Site.freshFeed, h.answers, h.store]

section

variable {settings : Settings} {campus : Campus} {ctx : Context} {uid : Uid}

theorem Context.Sound.answer_inquiry (h : ctx.Sound settings campus) :
    (FeedAnswers.inquiry settings ctx uid).answer campus =
      (FeedAnswers.inquiry settings { auth := ctx.auth } uid).answer campus := by
  have hres : (ctx.resolution settings).answer campus =
      (({ auth := ctx.auth } : Context).resolution settings).answer campus := h.answer_resolution
  simp only [FeedAnswers.inquiry, Inquiry.answer_seq, Inquiry.answer_map, hres]

theorem Context.Sound.resolution_inquiry (uid : Uid) (h : ctx.Sound settings campus) :
    ((FeedAnswers.inquiry settings ctx uid).answer campus).resolution =
      freshResolution settings campus ctx.auth := h.answer_resolution

/-- The instants of a feed composed of kept data were read from the store. -/
theorem FeedAnswers.regular_feed (a : FeedAnswers) (flags : FeatureFlags) (auth : Authentication)
    (uid : Uid) (s : Store) : (a.feed flags auth uid (s.data? uid)).Regular := by
  refine ⟨fun i hi => ?_, fun m hm => nomatch hm⟩
  obtain ⟨d, hd, hi⟩ := Option.bind_eq_some_iff.1 hi
  exact Store.regular_data? hd i hi

/-- A feed composed of kept data is read back from the cache. -/
theorem decodeText?_freshFeed (settings : Settings) (campus : Campus) (auth : Authentication)
    (uid : Uid) (s : Store) :
    decodeText? (encodeText (freshFeed settings campus auth uid (s.data? uid))) =
      some (freshFeed settings campus auth uid (s.data? uid)) :=
  (FeedAnswers.regular_feed _ _ auth uid s).decodeText?

end

/-! ### Reading -/

section Reading

variable {settings : Settings} (read : Cache.Reader) {P : String → String → Prop} {ctx : Context}
  {uid : Uid} {w : Site}

theorem feed_runBy_composeFeed (uid : Uid) (hctx : ctx.Sound settings (w.answers settings)) :
    ((composeFeed settings ctx uid).runBy read w).1.feed =
      w.freshFeed settings ctx.auth uid := by
  unfold Site.freshFeed freshFeed
  rw [← hctx.answer_inquiry]
  rfl

theorem resolution_runBy_composeFeed (hctx : ctx.Sound settings (w.answers settings)) :
    ((composeFeed settings ctx uid).runBy read w).1.resolution =
      Context.freshResolution settings (w.answers settings) ctx.auth :=
  hctx.resolution_inquiry uid

/-- Composing a feed only takes time. -/
theorem site_runBy_composeFeed :
    ((composeFeed settings ctx uid).runBy read w).2 =
      (w.inquire settings.timeout (FeedAnswers.inquiry settings ctx uid)).2 := rfl

theorem runBy_currentFeed_hit {feed : UserFeed}
    (h : (read w.cache w.clock (Cache.Key.status uid (viewKey ctx.auth))).bind decodeText? =
      some feed) :
    (currentFeed settings ctx uid).runBy read w = ((feed, ctx), w) := by
  simp only [currentFeed, Program.cached, Program.runBy_bind, Program.runBy_perform,
    Action.stepBy, Program.runBy_pure, h]

/-- The site after a feed was composed and kept. -/
def Site.afterComposing (w : Site) (settings : Settings) (ctx : Context) (uid : Uid) (ttl : Nanos) :
    Site :=
  let v := (w.inquire settings.timeout (FeedAnswers.inquiry settings ctx uid)).2
  let feed := w.freshFeed settings ctx.auth uid
  let key := Cache.Key.status uid (viewKey ctx.auth)
  { v with cache := v.cache.write v.clock key (encodeText feed) ttl }

theorem runBy_currentFeed_miss (hctx : ctx.Sound settings (w.answers settings))
    (h : (read w.cache w.clock (Cache.Key.status uid (viewKey ctx.auth))).bind
      (decodeText? (α := UserFeed)) = none) :
    ∃ ttl, (ttl = settings.failureTtl ∨ ttl = settings.cacheTtl) ∧
      (currentFeed settings ctx uid).runBy read w =
        ((w.freshFeed settings ctx.auth uid,
          ctx.settle (Context.freshResolution settings (w.answers settings) ctx.auth)),
          w.afterComposing settings ctx uid ttl) := by
  let degraded := ((composeFeed settings ctx uid).runBy read w).1.degraded
  refine ⟨if degraded then settings.failureTtl else settings.cacheTtl, ite_eq_or_eq _ _ _, ?_⟩
  · simp only [currentFeed, Program.cached, Program.runBy_bind, Program.runBy_perform,
      Action.stepBy, Program.runBy_pure, h, Program.remember, feed_runBy_composeFeed read uid hctx,
      resolution_runBy_composeFeed read hctx, site_runBy_composeFeed]
    rfl

/-- A request shows the feed as it would be composed, if what it may read in the cache is that
feed. What it writes is that feed too. -/
theorem runBy_currentFeed (hctx : ctx.Sound settings (w.answers settings))
    (hread : ∀ now text, read w.cache now (Cache.Key.status uid (viewKey ctx.auth)) = some text →
      ∀ f, decodeText? text = some f → f = w.freshFeed settings ctx.auth uid)
    (hwrite : P (Cache.Key.status uid (viewKey ctx.auth))
      (encodeText (w.freshFeed settings ctx.auth uid)))
    (hheld : w.cache.Holds P) :
    ∃ ctx' w', (currentFeed settings ctx uid).runBy read w =
        ((w.freshFeed settings ctx.auth uid, ctx'), w') ∧
      ctx'.auth = ctx.auth ∧ ctx'.Sound settings (w.answers settings) ∧
      w'.Agrees w ∧ w'.cache.Holds P := by
  cases hlast : (read w.cache w.clock (Cache.Key.status uid (viewKey ctx.auth))).bind
      (decodeText? (α := UserFeed)) with
  | some feed =>
    obtain ⟨text, htext, hfeed⟩ := Option.bind_eq_some_iff.1 hlast
    obtain rfl := hread w.clock text htext feed hfeed
    exact ⟨ctx, w, runBy_currentFeed_hit read hlast, rfl, hctx, .refl w, hheld⟩
  | none =>
    obtain ⟨ttl, -, hrun⟩ := runBy_currentFeed_miss read hctx hlast
    exact ⟨_, _, hrun, rfl, Context.sound_settle settings (w.answers settings) ctx,
      ⟨rfl, rfl, rfl⟩, hheld.write hwrite _ _⟩

/-- A stamp carries the hash that was asked for. It may write under its own key, and else changes
nothing. -/
theorem runBy_stamp (key hash : String) (w : Site) :
    ∃ at_ w', (stamp key hash).runBy read w = (⟨hash, at_⟩, w') ∧ w'.Agrees w ∧
      w'.clock = w.clock ∧
      (w'.cache = w.cache ∨ ∃ text ttl, w'.cache = w.cache.write w.clock key text ttl) := by
  cases hlast : ((read w.cache w.clock key).bind (decodeText? (α := LastModified))).filter
      fun m => m.hash == hash with
  | some m =>
    obtain ⟨-, hhash⟩ := Option.filter_eq_some_iff.1 hlast
    refine ⟨m.timestamp, w, ?_, .refl w, rfl, .inl rfl⟩
    rw [← eq_of_beq hhash] at hlast ⊢
    simp only [stamp, Program.cached, Program.runBy_bind, Program.runBy_perform, Action.stepBy,
      Program.runBy_pure, hlast]
  | none =>
    have hrun : (stamp key hash).runBy read w = (⟨hash, w.wallClock⟩,
        { w with
          wallClock := w.wallClock.tick 1000
          cache := w.cache.write w.clock key
            (encodeText (LastModified.mk hash w.wallClock)) stampTtl }) := by
      simp only [stamp, Program.cached, Program.runBy_bind, Program.runBy_perform, Action.stepBy,
        Program.runBy_pure, hlast, Program.remember, Action.step]
    exact ⟨_, _, hrun, ⟨rfl, rfl, rfl⟩, rfl, .inr ⟨_, _, rfl⟩⟩

/-- A status feed is the current feed with its stamp, which is kept apart. -/
theorem runBy_statusFeed_of_currentFeed {feed : UserFeed} {ctx' : Context} {v : Site}
    (huid : ctx.auth.userId = some uid) (hauth : ctx'.auth = ctx.auth)
    (h : (currentFeed settings ctx uid).runBy read w = ((feed, ctx'), v)) :
    ∃ at_ w', (statusFeed settings ctx).runBy read w = ((.ok (feed.stamped at_), ctx'), w') ∧
      w'.Agrees v ∧ w'.clock = v.clock ∧ (w'.cache = v.cache ∨ ∃ text ttl, w'.cache =
        v.cache.write v.clock (Cache.Key.stamp uid (viewKey ctx.auth)) text ttl) := by
  obtain ⟨at_, w', hlast, hw'⟩ := runBy_stamp read (Cache.Key.stamp uid (viewKey ctx.auth))
    (contentHash feed) v
  refine ⟨at_, w', ?_, hw'⟩
  simp only [statusFeed, subject, huid, Program.runBy_bind, h, hauth, hlast, Program.runBy_pure,
    UserFeed.stamped]

/-- The status feed of a request is the feed as it would be composed, with the stamp of its
hash. -/
theorem runBy_statusFeed (hctx : ctx.Sound settings (w.answers settings))
    (huid : ctx.auth.userId = some uid)
    (hread : ∀ now text, read w.cache now (Cache.Key.status uid (viewKey ctx.auth)) = some text →
      ∀ f, decodeText? text = some f → f = w.freshFeed settings ctx.auth uid)
    (hwrite : P (Cache.Key.status uid (viewKey ctx.auth))
      (encodeText (w.freshFeed settings ctx.auth uid)))
    (hstamp : ∀ text, P (Cache.Key.stamp uid (viewKey ctx.auth)) text)
    (hheld : w.cache.Holds P) :
    ∃ at_ ctx' w', (statusFeed settings ctx).runBy read w =
        ((.ok ((w.freshFeed settings ctx.auth uid).stamped at_), ctx'), w') ∧
      ctx'.auth = ctx.auth ∧ ctx'.Sound settings (w.answers settings) ∧
      w'.Agrees w ∧ w'.cache.Holds P := by
  obtain ⟨ctx', v, hfeed, hauth, hsound, hv, hheld'⟩ :=
    runBy_currentFeed read hctx hread hwrite hheld
  obtain ⟨at_, w', hrun, hw', -, hcache⟩ := runBy_statusFeed_of_currentFeed read huid hauth hfeed
  refine ⟨at_, ctx', w', hrun, hauth, hsound, hw'.trans hv, ?_⟩
  rcases hcache with hcache | ⟨text, ttl, hcache⟩
  · exact hcache ▸ hheld'
  · exact hcache ▸ hheld'.write (hstamp text) _ _

end Reading

end CampusView
