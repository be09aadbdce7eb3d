import CampusView.Proofs.Currency
import Mathlib.Tactic.TFAE

/-!
# Which sessions are kept apart by the cache

A status feed is kept for all sessions of one user and view. `statusFeed_isolated_tfae` says for
which sets of sessions this is safe: exactly if sessions of the same view have the same standing,
the same feed is composed for them, and then every request is answered with the feed of its own
session, in whatever order the requests come. `crossedViews` are two sessions for which it is not
safe.
-/

namespace CampusView

open Json Time

/-- What is composed for a session, whatever the cache holds. -/
def composed (settings : Settings) (w : Site) (auth : Authentication) :
    Except ServiceError UserFeed :=
  (subject auth).map fun uid => ((composeFeed settings { auth } uid).run w).1.feed

/-- What requests for the status feed are answered, each some time after the one before it. -/
def serve (settings : Settings) :
    List (Nanos × Authentication) → Site → List (Except ServiceError UserFeed)
  | [], _ => []
  | (elapsed, auth) :: requests, w =>
    let r := (statusFeed settings { auth }).run (w.wait elapsed)
    r.1.1 :: serve settings requests r.2

section

variable {settings : Settings} {w : Site} {a b auth : Authentication} {uid : Uid}

theorem composed_eq (huid : auth.userId = some uid) :
    composed settings w auth = .ok (w.freshFeed settings auth uid) := by
  have hfeed := feed_runBy_composeFeed Cache.read uid
    (Context.sound_of_auth settings (w.answers settings) auth)
  rw [Program.runBy_read] at hfeed
  rw [composed, subject, huid]
  exact congrArg Except.ok hfeed

theorem composed_of_none (h : auth.userId = none) :
    composed settings w auth = .error .unauthenticated := by
  rw [composed, subject, h]
  rfl

/-! ### Sessions of the same standing -/

/-- Sessions of the same standing are all served their own feeds. -/
theorem serve_of_sameStanding {S : Set Authentication}
    (hS : ∀ a ∈ S, ∀ b ∈ S, a.SameView b → a.SameStanding b) (w₀ : Site)
    {requests : List (Nanos × Authentication)} (hrequests : ∀ r ∈ requests, r.2 ∈ S)
    (hw : w.Agrees w₀)
    (hheld : w.cache.Holds (Current S settings (w₀.answers settings) w₀.store)) :
    (serve settings requests w).map (Except.map UserFeed.unstamped) =
      requests.map fun r => composed settings w₀ r.2 := by
  induction requests generalizing w with
  | nil => rfl
  | cons r requests ih =>
    obtain ⟨elapsed, auth⟩ := r
    obtain ⟨hauth, hrequests⟩ := List.forall_mem_cons.1 hrequests
    cases huid : auth.userId with
    | none =>
      have hrun : (statusFeed settings { auth }).run (w.wait elapsed) =
          ((.error .unauthenticated, { auth }), w.wait elapsed) := by
        rw [statusFeed, subject, huid]
        rfl
      have hrest := ih (w := w.wait elapsed) hrequests ⟨hw.store, hw.campus, hw.delay⟩ hheld
      rw [serve, List.map_cons, List.map_cons, hrun, composed_of_none huid]
      exact congrArg (List.cons _) hrest
    | some uid =>
      have hwait : (w.wait elapsed).Agrees w₀ := ⟨hw.store, hw.campus, hw.delay⟩
      -- what is composed after a while is what was composed at first
      have hfresh := hwait.freshFeed settings auth uid
      obtain ⟨at_, ctx, w', hrun, -, -, hw', hheld'⟩ := runBy_statusFeed Cache.read
        (P := Current S settings (w₀.answers settings) w₀.store) (w := w.wait elapsed)
        (Context.sound_of_auth settings _ auth) huid
        (fun now text htext f hf => hfresh ▸
          (hheld.of_read Cache.truthful_read htext).eq_freshFeed hS hauth huid hf)
        (hfresh ▸ .feed hauth huid) (fun text => .stamp _ _ text) hheld
      rw [Program.runBy_read, hfresh] at hrun
      rw [serve, List.map_cons, List.map_cons, hrun, composed_eq huid,
        ih hrequests (hw'.trans hwait) hheld']
      rfl

/-! ### Sessions of different standing -/

/-- A feed that was just composed is kept. -/
theorem read_afterComposing {ttl : Nanos} (httl : 0 < ttl) (w : Site) (settings : Settings)
    (ctx : Context) (uid : Uid) :
    (w.afterComposing settings ctx uid ttl).cache.read (w.afterComposing settings ctx uid ttl).clock
      (Cache.Key.status uid (viewKey ctx.auth)) =
        some (encodeText (w.freshFeed settings ctx.auth uid)) := by
  rw [Site.afterComposing, Cache.read_write _ _ _ _ _ _ _ (Nat.le_refl _), if_pos rfl,
    if_pos (Nat.lt_add_of_pos_right httl)]

/-- The feed that the first of two requests of one view composes is what the second is answered
with. -/
theorem serve_twice (hview : a.SameView b) (hw : w.cache = ∅) (httl : 0 < settings.cacheTtl)
    (hfailure : 0 < settings.failureTtl) :
    (serve settings [(0, a), (0, b)] w).map (Except.map UserFeed.unstamped) =
      [composed settings w a, composed settings w a] := by
  obtain ⟨uid, huid⟩ := Option.isSome_iff_exists.1 hview.signedIn
  have hwait : ∀ v : Site, v.wait 0 = v := fun _ => rfl
  -- the first request finds nothing and composes
  obtain ⟨ttl, hpositive, hfirst⟩ := runBy_currentFeed_miss Cache.read (w := w)
    (Context.sound_of_auth settings _ a)
    (show (w.cache.read w.clock (Cache.Key.status uid (viewKey a))).bind _ = none by rw [hw]; rfl)
  have hkept := read_afterComposing
    (by obtain rfl | rfl := hpositive <;> assumption : 0 < ttl) w settings { auth := a } uid
  obtain ⟨at_, v, hfirst, -, hclock, hcache⟩ := runBy_statusFeed_of_currentFeed
    Cache.read huid (by rfl) hfirst
  -- the stamp leaves the feed in the cache
  have hkept' : v.cache.read v.clock (Cache.Key.status uid (viewKey a)) =
      some (encodeText (w.freshFeed settings a uid)) := by
    rw [← hkept, hclock]
    rcases hcache with hcache | ⟨text, ttl', hcache⟩
    · rw [hcache]
    · rw [hcache, Cache.read_write _ _ _ _ _ _ _ (Nat.le_refl _),
        if_neg (Cache.Key.stamp_ne_status _ _ _ _).symm]
  -- the second request finds the feed of the first
  have hsecond : (currentFeed settings { auth := b } uid).runBy Cache.read v =
      ((w.freshFeed settings a uid, { auth := b }), v) := by
    apply runBy_currentFeed_hit Cache.read
    rw [← hview.key, hkept', Option.bind_some, decodeText?_freshFeed]
  obtain ⟨at', v', hsecond, -, -⟩ := runBy_statusFeed_of_currentFeed
    Cache.read (hview.user ▸ huid) rfl hsecond
  rw [Program.runBy_read] at hfirst hsecond
  rw [serve, serve, serve, hwait, hwait, hfirst, hsecond, composed_eq huid]
  rfl

/-! ### Telling sessions apart -/

theorem answers_prompt (campus : Campus) (settings : Settings) :
    (Site.prompt campus).answers settings = campus := campus.within_no_delay settings.timeout

/-- A feed shows whether the user signed in directly. -/
theorem isDirectlyAuthenticated_freshFeed (settings : Settings) (campus : Campus)
    (auth : Authentication) (uid : Uid) (data : Option UserData) :
    (freshFeed settings campus auth uid data).isDirectlyAuthenticated = auth.isDirect := rfl

/-- A campus where nothing is known but that somebody is an administrator. -/
def administrator (actor : Uid) : Campus :=
  (∅ : Campus).set .userAuth actor (.found { isSuperuser := true, active := true })

/-- A feed shows whether an administrator is the authority. -/
theorem isSuperuser_freshFeed (settings : Settings) (auth : Authentication) (uid actor : Uid)
    (data : Option UserData) :
    (freshFeed settings (administrator actor) auth uid data).isSuperuser = true ↔
      auth.authority? = some (.user actor) := by
  show (((askAuthority auth).answer (administrator actor)).found?.getD .everybody).canAdministrate =
    true ↔ _
  unfold askAuthority
  cases auth.authority? with
  | none => simp [Lookup.found?, UserAuth.everybody, UserAuth.canAdministrate]
  | some authority =>
    cases authority with
    | everybody => simp [Lookup.found?, UserAuth.everybody, UserAuth.canAdministrate]
    | user u =>
      rw [Inquiry.answer_ask, Option.some.injEq, Authority.user.injEq, administrator, Campus.set,
        dif_pos rfl]
      by_cases hu : u = actor
      · rw [if_pos hu]
        simp [hu, Lookup.found?, UserAuth.canAdministrate]
      · rw [if_neg hu]
        exact iff_of_false Bool.false_ne_true hu

/-- A campus where nothing is known but that a student gave a delegate access to the finances. -/
def delegation (delegate student : Uid) : Campus :=
  ((∅ : Campus).set .crosswalk student
    (.found { studentId := none, campusSolutionsId := some "1", delegateUserId := none })).set
    .delegateStudents delegate
    (.found [{ campusSolutionsId := "1", privileges := { financial := true } }])

/-- A feed shows whether a delegate looks at the student. -/
theorem delegateViewAsPrivileges_freshFeed (huid : auth.userId = some uid) (delegate : Uid)
    (data : Option UserData) :
    (freshFeed {} (delegation delegate uid) auth uid data).delegateViewAsPrivileges =
        some { financial := true } ↔ auth.delegateViewer = some delegate := by
  show (Context.freshResolution {} (delegation delegate uid) auth).map Resolution.privileges = _ ↔ _
  cases hviewer : auth.delegateViewer with
  | none =>
    have hres : Context.freshResolution {} (delegation delegate uid) auth = none := by
      simp only [Context.freshResolution, Context.resolution, hviewer, Inquiry.answer_pure]
    rw [hres]
    constructor <;> rintro ⟨⟩
  | some viewer =>
    have hres : Context.freshResolution {} (delegation delegate uid) auth =
        some (Resolution.of ((delegation delegate uid) .crosswalk uid)
          ((delegation delegate uid) .delegateStudents viewer)) := by
      simp only [Context.freshResolution, Context.resolution, hviewer, huid, resolve]
      rfl
    -- the campus knows one delegate of the student, with one privilege
    have hids : (delegation delegate uid) .crosswalk uid =
        .found { studentId := none, campusSolutionsId := some "1", delegateUserId := none } := by
      rw [delegation, Campus.set, dif_neg (by decide), Campus.set, dif_pos rfl, if_pos rfl]
    have hstudents : (delegation delegate uid) .delegateStudents viewer =
        if viewer = delegate then
          .found [{ campusSolutionsId := "1", privileges := { financial := true } }]
        else .notFound := by
      rw [delegation, Campus.set, dif_pos rfl, Campus.set, dif_neg (by decide)]
      rfl
    rw [hres, hids, hstudents, Option.map_some, Option.some.injEq, Option.some.injEq]
    by_cases h : viewer = delegate
    · rw [if_pos h]
      exact iff_of_true (by decide) h
    · rw [if_neg h]
      exact iff_of_false (by decide) h

/-- If the same feeds are composed for two sessions of one view, they have the same standing. -/
theorem sameStanding_of_composed (hview : a.SameView b)
    (h : ∀ settings w, composed settings w a = composed settings w b) : a.SameStanding b := by
  obtain ⟨uid, ha⟩ := Option.isSome_iff_exists.1 hview.signedIn
  have hb : b.userId = some uid := hview.user ▸ ha
  have hfeeds : ∀ campus, freshFeed {} campus a uid none = freshFeed {} campus b uid none := by
    intro campus
    have hfeed := h {} (Site.prompt campus)
    rw [composed_eq ha, composed_eq hb] at hfeed
    have hsame := Except.ok.inj hfeed
    rwa [Site.freshFeed, Site.freshFeed, answers_prompt] at hsame
  -- a feed shows whose authority governs, by a campus that knows one superuser
  have hauthority : ∀ actor,
      a.authority? = some (.user actor) ↔ b.authority? = some (.user actor) := fun actor => by
      rw [← isSuperuser_freshFeed {} a uid actor none, ← isSuperuser_freshFeed {} b uid actor none,
        hfeeds]
  refine ⟨Option.ext fun delegate => ?_, ?_, ?_⟩
  · rw [← delegateViewAsPrivileges_freshFeed ha delegate none,
      ← delegateViewAsPrivileges_freshFeed hb delegate none, hfeeds]
  · rw [← isDirectlyAuthenticated_freshFeed {} ∅ a uid none, hfeeds]
    rfl
  · obtain ⟨x, hx⟩ := Authentication.exists_authority? hview.signedIn
    obtain ⟨y, hy⟩ := Authentication.exists_authority? (hview.user ▸ hview.signedIn)
    cases x with
    | user actor => rw [hx, (hauthority actor).1 hx]
    | everybody =>
      cases y with
      | user actor => exact absurd ((hauthority actor).2 hy) (by simp [hx])
      | everybody => rw [hx, hy]

/-- **Feeds are kept apart exactly by standing.** -/
theorem statusFeed_isolated_tfae (S : Set Authentication) : List.TFAE [
    ∀ a ∈ S, ∀ b ∈ S, a.SameView b → a.SameStanding b,
    ∀ a ∈ S, ∀ b ∈ S, a.SameView b → ∀ settings w, composed settings w a = composed settings w b,
    ∀ settings w requests, w.cache = ∅ → (∀ r ∈ requests, r.2 ∈ S) →
      (serve settings requests w).map (Except.map UserFeed.unstamped) =
        requests.map fun r => composed settings w r.2] := by
  tfae_have 1 → 3 := by
    intro hS settings w requests hw hrequests
    exact serve_of_sameStanding hS w hrequests (.refl w) (hw ▸ Cache.holds_empty)
  tfae_have 3 → 2 := by
    intro hserve a ha b hb hview settings w
    -- how long feeds are kept makes no difference for what is composed
    let kept : Settings := { settings with cacheTtl := 1, failureTtl := 1 }
    let empty : Site := { w with cache := ∅ }
    have htwice := @serve_twice kept empty a b hview rfl Nat.one_pos Nat.one_pos
    rw [hserve kept empty [(0, a), (0, b)] rfl (by simp [ha, hb])] at htwice
    exact (List.cons.inj (List.cons.inj htwice).2).1.symm
  tfae_have 2 → 1 := fun h a ha b hb hview => sameStanding_of_composed hview (h a ha b hb hview)
  tfae_finish

end

/-! ### Two sessions that are not kept apart -/

/-- The session of somebody who views the site as a student. -/
def plainView : SessionRecord :=
  ⟨[(SessionKey.userId, .string "61889"), (SessionKey.viewer, .string "2040")]⟩

/-- The same session with a delegate of the student among the viewers. -/
def mixedView : SessionRecord :=
  ⟨plainView.entries ++ [(SessionKey.delegateViewer, .string "1000")]⟩

/-- The delegate among the viewers is not seen in the key, so the feed that was composed without
one is served for the session with one. -/
theorem statusFeed_crosses_views :
    let a := Authentication.ofSession plainView
    let b := Authentication.ofSession mixedView
    let w := Site.prompt ∅
    a.SameView b ∧ composed {} w a ≠ composed {} w b ∧
      (serve {} [(0, a), (0, b)] w).map (Except.map UserFeed.unstamped) =
        [composed {} w a, composed {} w a] := by
  intro a b w
  have ha : a.userId = some ⟨"61889"⟩ := by decide
  have hb : b.userId = some ⟨"61889"⟩ := by decide
  have hview : a.SameView b := ⟨by decide, by decide, by decide⟩
  refine ⟨hview, fun h => ?_, serve_twice hview rfl (by decide) (by decide)⟩
  rw [composed_eq ha, composed_eq hb] at h
  have hprivileges := congrArg UserFeed.delegateViewAsPrivileges (Except.ok.inj h)
  exact absurd hprivileges (by decide)

end CampusView
