import CampusView.Operation
import CampusView.Proofs.Currency

/-!
# What operations answer and leave

`Operation.answer` and `Operation.effect` say what an operation answers and what it leaves in the
store, by the answers of the campus systems, the kept data and the clock alone. `runBy_program` says
that the site does this, however it reads the cache, as long as everything in the cache is current;
and everything is current again then. Only the answers need not be exactly these: `Reply.Matches`
says how they may differ.
-/

namespace CampusView

open Json Time

/-! ### What is answered and left -/

/-- The page as its viewer sees it, or a refusal. -/
def AcademicsFeed.shown (page : AcademicsFeed) (privileges : Option PrivilegeSet) :
    Except ServiceError AcademicsFeed :=
  match page.compose? privileges with
  | some page => .ok page
  | none => .error (.forbidden .noAcademicPrivilege)

/-- What an operation of a session answers. -/
def Operation.answer (settings : Settings) (campus : Campus) (store : Store) (now : Instant)
    (auth : Authentication) : Operation → Reply
  | statusFeed => .statusFeed do
      let uid ← subject auth
      return (freshFeed settings campus auth uid (store.data? uid)).stamped now
  | academicsFeed => .academicsFeed do
      let uid ← subject auth
      (freshPage campus uid).shown
        ((Context.freshResolution settings campus auth).map Resolution.privileges)
  | delegateStudents => .delegateStudents do
      let uid ← subject auth
      if !auth.isDirect then throw (.forbidden .notTheDelegate)
      else if !settings.flags.csDelegatedAccess then return []
      else return (campus .delegateStudents uid).found?.getD []
  | setPreferredName value => .userData do
      let uid ← writer auth
      (store.setName uid (preferredName? value)).1.mapError .store
  | recordFirstLogin => .userData do
      let uid ← writer auth
      (store.recordLogin uid now).1.mapError .store
  | deleteUser target => .deleted do
      let _ ← subject auth
      if ((askAuthority auth).answer campus).found?.any UserAuth.canAdministrate then
        return (store.row? target).isSome
      else throw (.forbidden .notAdministrator)

/-- What an operation of a session leaves in the store. -/
def Operation.effect (campus : Campus) (now : Instant) (auth : Authentication) (store : Store) :
    Operation → Store
  | setPreferredName value =>
    match writer auth with
    | .ok uid => (store.setName uid (preferredName? value)).2
    | .error _ => store
  | recordFirstLogin =>
    match writer auth with
    | .ok uid => (store.recordLogin uid now).2
    | .error _ => store
  | deleteUser target =>
    if (subject auth).toBool &&
        ((askAuthority auth).answer campus).found?.any UserAuth.canAdministrate then
      (store.delete target).2
    else store
  | _ => store

/-- A reply where the cache is read by `read`, and the reply it should be. The time of the last
change of a feed may be another, and a page may be one that was read back from the cache. -/
inductive Reply.Matches (read : Cache.Reader) (campus : Campus) (t : Instant) : Reply → Reply → Prop
  | same {a b : Reply} (h : a.restamped t = b.restamped t) : Matches read campus t a b
  | reread (hread : read ≠ Cache.never) (uid : Uid) (privileges : Option PrivilegeSet) :
    Matches read campus t
      (.academicsFeed ((freshPage campus uid).reread.shown privileges))
      (.academicsFeed ((freshPage campus uid).shown privileges))

namespace Reply.Matches

variable {read : Cache.Reader} {campus : Campus} {t : Instant} {a b c : Reply}

/-- Without a cache nothing is read back. -/
theorem restamped_eq_of_never (h : Matches Cache.never campus t a b) :
    a.restamped t = b.restamped t := by
  cases h with
  | same h => exact h
  | reread hread => exact absurd rfl hread

/-- Pages whose numbers are read back make no difference. -/
theorem restamped_eq (hcampus : campus.ExactAcademics) (h : Matches read campus t a b) :
    a.restamped t = b.restamped t := by
  cases h with
  | same h => exact h
  | reread _ uid privileges => rw [reread_freshPage hcampus]

theorem trans_restamped (h : Matches read campus t a b) (hbc : b.restamped t = c.restamped t) :
    Matches read campus t a c := by
  cases h with
  | same h => exact .same (h.trans hbc)
  | reread hread uid privileges =>
    -- a page has no stamp
    cases c with
    | academicsFeed answer =>
      obtain rfl := Reply.academicsFeed.inj hbc
      exact .reread hread uid privileges
    | _ => cases hbc

end Reply.Matches

/-- The site as `op` leaves it: the reply and the store are as they should be, the request is of the
same session, and everything in the cache is current. -/
structure Outcome (S : Set Authentication) (settings : Settings) (read : Cache.Reader)
    (ctx : Context) (op : Operation) (w : Site) (r : (Reply × Context) × Site) : Prop where
  reply : ∀ t, r.1.1.Matches read (w.answers settings) t
    (op.answer settings (w.answers settings) w.store w.wallClock ctx.auth)
  auth : r.1.2.auth = ctx.auth
  sound : r.1.2.Sound settings (w.answers settings)
  store : r.2.store = op.effect (w.answers settings) w.wallClock ctx.auth w.store
  campus : r.2.campus = w.campus
  delay : r.2.delay = w.delay
  current : r.2.cache.Holds (Current S settings (w.answers settings) r.2.store)

section

variable {S : Set Authentication} {settings : Settings} {read : Cache.Reader} {ctx : Context}
  {w : Site} {uid : Uid}

/-! ### Reading -/

theorem runBy_program_statusFeed (hS : ∀ a ∈ S, ∀ b ∈ S, a.SameView b → a.SameStanding b)
    (hread : Cache.Truthful read) (hauth : ctx.auth ∈ S)
    (hctx : ctx.Sound settings (w.answers settings))
    (hheld : w.cache.Holds (Current S settings (w.answers settings) w.store)) :
    Outcome S settings read ctx .statusFeed w
      (((Operation.statusFeed.program settings ctx).runBy read w)) := by
  cases huid : ctx.auth.userId with
  | none =>
    have hrun : (Operation.statusFeed.program settings ctx).runBy read w =
        ((.statusFeed (.error .unauthenticated), ctx), w) := by
      simp only [Operation.program, statusFeed, subject, huid, pure_bind, Program.runBy_pure]
    rw [hrun]
    refine ⟨fun t => .same ?_, rfl, hctx, rfl, rfl, rfl, hheld⟩
    simp only [Operation.answer, subject, huid]
    rfl
  | some uid =>
    obtain ⟨at_, ctx', w', hrun, hauth', hctx', hw', hheld'⟩ := runBy_statusFeed read hctx huid
      (fun now text htext f hf => (hheld.of_read hread htext).eq_freshFeed hS hauth huid hf)
      (.feed hauth huid) (fun text => .stamp _ _ text) hheld
    have hprogram : (Operation.statusFeed.program settings ctx).runBy read w =
        ((.statusFeed (.ok ((w.freshFeed settings ctx.auth uid).stamped at_)), ctx'), w') := by
      simp only [Operation.program, Program.runBy_bind, hrun, Program.runBy_pure]
    rw [hprogram]
    refine ⟨fun t => .same ?_, hauth', hctx', hw'.store, hw'.campus, hw'.delay, hw'.store ▸ hheld'⟩
    simp only [Operation.answer, subject, huid]
    rfl

/-- The page of a user is asked for, or the campus system fails and the page counts as empty. -/
theorem runBy_askAcademics (read : Cache.Reader) (settings : Settings) (uid : Uid) (w : Site) :
    ∃ v, v.Agrees w ∧ v.cache = w.cache ∧
      ((askAcademics settings uid).runBy read w =
          (.ok (freshPage (w.answers settings) uid, settings.cacheTtl), v) ∨
        ∃ details, (askAcademics settings uid).runBy read w = (.error details, v) ∧
          freshPage (w.answers settings) uid = {}) := by
  refine ⟨(w.inquire settings.timeout (Inquiry.ask .academics uid)).2, ⟨rfl, rfl, rfl⟩, rfl, ?_⟩
  unfold freshPage
  cases hanswer : w.answers settings .academics uid with
  | found page =>
    left
    simp only [askAcademics, Program.runBy_bind, Program.runBy_perform, Action.stepBy, Action.step]
    rw [show (w.inquire settings.timeout (Inquiry.ask .academics uid)).1 = _ from hanswer]
    rfl
  | notFound =>
    left
    simp only [askAcademics, Program.runBy_bind, Program.runBy_perform, Action.stepBy, Action.step]
    rw [show (w.inquire settings.timeout (Inquiry.ask .academics uid)).1 = _ from hanswer]
    rfl
  | errored details =>
    refine .inr ⟨details, ?_, rfl⟩
    simp only [askAcademics, Program.runBy_bind, Program.runBy_perform, Action.stepBy, Action.step]
    rw [show (w.inquire settings.timeout (Inquiry.ask .academics uid)).1 = _ from hanswer]
    rfl

/-- The page of a user is as the campus system answers, or that page as it is read back. -/
theorem runBy_cachedOr_askAcademics (uid : Uid) (hread : Cache.Truthful read)
    (hheld : w.cache.Holds (Current S settings (w.answers settings) w.store)) :
    ∃ page w',
      (Program.cachedOr (Cache.Key.academics uid) (askAcademics settings uid)).runBy read w =
        (page, w') ∧
      (page.toOption.getD {} = freshPage (w.answers settings) uid ∨
        read ≠ Cache.never ∧
          page.toOption.getD {} = (freshPage (w.answers settings) uid).reread) ∧
      w'.Agrees w ∧ w'.cache.Holds (Current S settings (w.answers settings) w.store) := by
  cases hlast : (read w.cache w.clock (Cache.Key.academics uid)).bind
      (decodeText? (α := AcademicsFeed)) with
  | some page =>
    obtain ⟨text, htext, hpage⟩ := Option.bind_eq_some_iff.1 hlast
    have hcache : read ≠ Cache.never := by
      rintro rfl
      cases htext
    refine ⟨.ok page, w, ?_, .inr ⟨hcache, (hheld.of_read hread htext).eq_reread hpage⟩, .refl w,
      hheld⟩
    simp only [Program.cachedOr, Program.cached, Program.runBy_bind, Program.runBy_perform,
      Action.stepBy, Program.runBy_pure, hlast]
  | none =>
    obtain ⟨v, hv, hcache, hasked | ⟨details, hasked, hempty⟩⟩ :=
      runBy_askAcademics read settings uid w
    · let page := freshPage (w.answers settings) uid
      let kept :=
        v.cache.write v.clock (Cache.Key.academics uid) (encodeText page) settings.cacheTtl
      refine ⟨.ok page, { v with cache := kept }, ?_, .inl rfl, ⟨hv.store, hv.campus, hv.delay⟩, ?_⟩
      · simp only [Program.cachedOr, Program.cached, Program.runBy_bind, Program.runBy_perform,
          Action.stepBy, Program.runBy_pure, hlast, hasked, Program.remember, Action.step]
        rfl
      · have hheld' := hcache.symm ▸ hheld
        exact hheld'.write (.page uid) _ _
    · refine ⟨.error details, v, ?_, .inl hempty.symm, hv, hcache ▸ hheld⟩
      simp only [Program.cachedOr, Program.cached, Program.runBy_bind, Program.runBy_perform,
        Action.stepBy, Program.runBy_pure, hlast, hasked]

/-- Nothing is shown to a delegate who may see no part of the page. -/
theorem AcademicsFeed.shown_of_all {privileges : Option PrivilegeSet}
    (h : privileges.all PrivilegeSet.grantsAcademics = false) (page : AcademicsFeed) :
    page.shown privileges = .error (.forbidden .noAcademicPrivilege) := by
  cases privileges with
  | none => cases h
  | some p =>
    have hnone : page.compose? (some p) = none := if_neg (Bool.eq_false_iff.1 h)
    rw [AcademicsFeed.shown, hnone]

theorem runBy_program_academicsFeed (hread : Cache.Truthful read)
    (hctx : ctx.Sound settings (w.answers settings))
    (hheld : w.cache.Holds (Current S settings (w.answers settings) w.store)) :
    Outcome S settings read ctx .academicsFeed w
      ((Operation.academicsFeed.program settings ctx).runBy read w) := by
  cases huid : ctx.auth.userId with
  | none =>
    have hrun : (Operation.academicsFeed.program settings ctx).runBy read w =
        ((.academicsFeed (.error .unauthenticated), ctx), w) := by
      simp only [Operation.program, academicsFeed, subject, huid, pure_bind, Program.runBy_pure]
    rw [hrun]
    refine ⟨fun t => .same ?_, rfl, hctx, rfl, rfl, rfl, hheld⟩
    simp only [Operation.answer, subject, huid]
    rfl
  | some uid =>
    obtain ⟨resolution, hresolution⟩ : ∃ resolution, resolution =
      Context.freshResolution settings (w.answers settings) ctx.auth := ⟨_, rfl⟩
    -- settling the privileges takes time and nothing else
    obtain ⟨v, hv, hcache, hsettled⟩ : ∃ v, v.Agrees w ∧ v.cache = w.cache ∧
        w.inquire settings.timeout (ctx.resolution settings) = (resolution, v) :=
      ⟨_, ⟨rfl, rfl, rfl⟩, rfl, Prod.ext (hctx.answer_resolution.trans hresolution.symm) rfl⟩
    have hsound : (ctx.settle resolution).Sound settings (w.answers settings) :=
      hresolution ▸ Context.sound_settle settings (w.answers settings) ctx
    cases hgrants : (resolution.map Resolution.privileges).all PrivilegeSet.grantsAcademics with
    | false =>
      have hrun : (Operation.academicsFeed.program settings ctx).runBy read w =
          ((.academicsFeed (.error (.forbidden .noAcademicPrivilege)), ctx.settle resolution),
            v) := by
        simp only [Operation.program, academicsFeed, subject, huid, Program.runBy_bind,
          Program.runBy_perform, Action.stepBy, Action.step, hsettled, hgrants, Bool.false_eq_true,
          if_false, Program.runBy_pure]
      rw [hrun]
      refine ⟨fun t => .same ?_, rfl, hsound, hv.store, hv.campus, hv.delay, ?_⟩
      · simp only [Operation.answer, subject, huid, ← hresolution,
          AcademicsFeed.shown_of_all hgrants]
        rfl
      · exact hv.store ▸ hcache ▸ hheld
    | true =>
      have hheld' : v.cache.Holds (Current S settings (v.answers settings) v.store) := by
        rwa [hv.answers, hv.store, hcache]
      obtain ⟨page, w', hpage, hfresh, hw', hheld''⟩ := runBy_cachedOr_askAcademics uid hread hheld'
      rw [hv.answers] at hfresh hheld''
      have hagrees := hw'.trans hv
      have hrun : (Operation.academicsFeed.program settings ctx).runBy read w =
          ((.academicsFeed ((page.toOption.getD {}).shown (resolution.map Resolution.privileges)),
            ctx.settle resolution), w') := by
        simp only [Operation.program, academicsFeed, subject, huid, Program.runBy_bind,
          Program.runBy_perform, Action.stepBy, Action.step, hsettled, hgrants, if_true, hpage,
          AcademicsFeed.shown]
        cases (page.toOption.getD {}).compose? (resolution.map Resolution.privileges) <;> rfl
      rw [hrun]
      refine ⟨fun t => ?_, rfl, hsound, hagrees.store, hagrees.campus, hagrees.delay,
        hw'.store ▸ hheld''⟩
      have hanswer : Operation.academicsFeed.answer settings (w.answers settings) w.store
          w.wallClock ctx.auth = .academicsFeed ((freshPage (w.answers settings) uid).shown
            (resolution.map Resolution.privileges)) := by
        simp only [Operation.answer, subject, huid, ← hresolution]
        rfl
      rw [hanswer]
      rcases hfresh with hfresh | ⟨hcache, hfresh⟩
      · exact hfresh ▸ .same rfl
      · exact hfresh ▸ .reread hcache uid _

theorem runBy_program_delegateStudents (hctx : ctx.Sound settings (w.answers settings))
    (hheld : w.cache.Holds (Current S settings (w.answers settings) w.store)) :
    Outcome S settings read ctx .delegateStudents w
      ((Operation.delegateStudents.program settings ctx).runBy read w) := by
  obtain ⟨answer, v, hrun, hanswer, hv, hcache⟩ : ∃ answer v,
      (delegateStudents settings ctx.auth).runBy read w = (answer, v) ∧
      Operation.delegateStudents.answer settings (w.answers settings) w.store w.wallClock ctx.auth =
        .delegateStudents answer ∧ v.Agrees w ∧ v.cache = w.cache := by
    cases huid : ctx.auth.userId with
    | none =>
      refine ⟨.error .unauthenticated, w, ?_, ?_, .refl w, rfl⟩
      · simp only [delegateStudents, subject, huid, Program.runBy_pure]
      · simp only [Operation.answer, subject, huid]
        rfl
    | some uid =>
      cases hdirect : ctx.auth.isDirect with
      | false =>
        refine ⟨.error (.forbidden .notTheDelegate), w, ?_, ?_, .refl w, rfl⟩
        · simp only [delegateStudents, subject, huid, hdirect, Bool.not_false, if_true,
            Program.runBy_pure]
        · simp only [Operation.answer, subject, huid, hdirect, Bool.not_false, if_true]
          rfl
      | true =>
        cases hflag : settings.flags.csDelegatedAccess with
        | false =>
          refine ⟨.ok [], w, ?_, ?_, .refl w, rfl⟩
          · simp only [delegateStudents, subject, huid, hdirect, hflag, Bool.not_false,
              Bool.not_true, Bool.false_eq_true, if_true, if_false, Program.runBy_pure]
          · simp only [Operation.answer, subject, huid, hdirect, hflag, Bool.not_false,
              Bool.not_true, Bool.false_eq_true, if_true, if_false]
            rfl
        | true =>
          refine ⟨.ok ((w.answers settings .delegateStudents uid).found?.getD []),
            (w.inquire settings.timeout (Inquiry.ask .delegateStudents uid)).2, ?_, ?_,
            ⟨rfl, rfl, rfl⟩, rfl⟩
          · simp only [delegateStudents, subject, huid, hdirect, hflag, Bool.not_true,
              Bool.false_eq_true, if_false, Program.runBy_bind, Program.runBy_perform,
              Action.stepBy, Action.step, Program.runBy_pure]
            rfl
          · simp only [Operation.answer, subject, huid, hdirect, hflag, Bool.not_true,
              Bool.false_eq_true, if_false]
            rfl
  have hprogram : (Operation.delegateStudents.program settings ctx).runBy read w =
      ((.delegateStudents answer, ctx), v) := by
    simp only [Operation.program, Program.runBy_bind, hrun, Program.runBy_pure]
  rw [hprogram]
  refine ⟨fun t => .same ?_, rfl, hctx, hv.store, hv.campus, hv.delay, hv.store ▸ hcache ▸ hheld⟩
  rw [hanswer]

/-! ### Writing -/

/-- After a write whatever was kept of the user is forgotten, unless nothing changed that could be
read. -/
theorem runBy_afterWrite (read : Cache.Reader) (uid : Uid) (w : Site)
    {written : Except StoreFault UserData} {store : Store} {campus : Campus}
    (hheld : w.cache.Holds (Current S settings campus store))
    (hothers : ∀ u, u ≠ uid → w.store.data? u = store.data? u)
    (herror : ∀ fault, written = .error fault → ∀ u, w.store.data? u = store.data? u) :
    ∃ c, (afterWrite uid written).runBy read w =
        (written.mapError .store, { w with cache := c }) ∧
      c.Holds (Current S settings campus w.store) := by
  cases written with
  | error fault =>
    exact ⟨w.cache, rfl, hheld.mono fun _ _ h => h.of_data (herror fault rfl)⟩
  | ok data =>
    refine ⟨w.cache.invalidate (Cache.Key.user uid), rfl, ?_⟩
    exact (hheld.invalidate (Cache.Key.user uid)).mono fun _ _ h => h.2.of_invalidated h.1 hothers

theorem runBy_program_setPreferredName (value : String)
    (hctx : ctx.Sound settings (w.answers settings))
    (hheld : w.cache.Holds (Current S settings (w.answers settings) w.store)) :
    Outcome S settings read ctx (.setPreferredName value) w
      (((Operation.setPreferredName value).program settings ctx).runBy read w) := by
  cases hwriter : writer ctx.auth with
  | error e =>
    have hrun : ((Operation.setPreferredName value).program settings ctx).runBy read w =
        ((.userData (.error e), ctx), w) := by
      simp only [Operation.program, setPreferredName, hwriter, pure_bind, Program.runBy_pure]
    rw [hrun]
    refine ⟨fun t => .same ?_, rfl, hctx, ?_, rfl, rfl, hheld⟩
    · simp only [Operation.answer, hwriter]
      rfl
    · simp only [Operation.effect, hwriter]
  | ok uid =>
    let written := w.store.setName uid (preferredName? value)
    let v : Site := { w with store := written.2 }
    obtain ⟨c, hafter, hheld'⟩ := @runBy_afterWrite S settings read uid v written.1 _ _ hheld
      (fun u hu => Store.data?_put_of_ne hu _)
      fun fault hfault => Store.data?_setName_of_error hfault
    have hrun : ((Operation.setPreferredName value).program settings ctx).runBy read w =
        ((.userData (written.1.mapError .store), ctx), { v with cache := c }) := by
      simp only [Operation.program, setPreferredName, hwriter, Program.runBy_bind,
        Program.runBy_perform, Action.stepBy, Action.step, Site.onStore]
      rw [hafter]
      rfl
    rw [hrun]
    refine ⟨fun t => .same ?_, rfl, hctx, ?_, rfl, rfl, hheld'⟩
    · simp only [Operation.answer, hwriter]
      rfl
    · simp only [Operation.effect, hwriter]
      rfl

theorem runBy_program_recordFirstLogin (hyear : FourDigits w.wallClock.date.year)
    (hctx : ctx.Sound settings (w.answers settings))
    (hheld : w.cache.Holds (Current S settings (w.answers settings) w.store)) :
    Outcome S settings read ctx .recordFirstLogin w
      ((Operation.recordFirstLogin.program settings ctx).runBy read w) := by
  cases hwriter : writer ctx.auth with
  | error e =>
    have hrun : (Operation.recordFirstLogin.program settings ctx).runBy read w =
        ((.userData (.error e), ctx), w) := by
      simp only [Operation.program, recordFirstLogin, hwriter, pure_bind, Program.runBy_pure]
    rw [hrun]
    refine ⟨fun t => .same ?_, rfl, hctx, ?_, rfl, rfl, hheld⟩
    · simp only [Operation.answer, hwriter]
      rfl
    · simp only [Operation.effect, hwriter]
  | ok uid =>
    let written := w.store.recordLogin uid w.wallClock
    -- what the clock shows afterwards does not matter
    obtain ⟨later, hlater⟩ : ∃ later, w.wallClock.tick 1000 = later := ⟨_, rfl⟩
    let v : Site := { w with wallClock := later, store := written.2 }
    obtain ⟨c, hafter, hheld'⟩ := @runBy_afterWrite S settings read uid v written.1 _ _ hheld
      (fun u hu => Store.data?_put_of_ne hu _)
      fun fault hfault => Store.data?_recordLogin_of_error hyear hfault
    have hrun : (Operation.recordFirstLogin.program settings ctx).runBy read w =
        ((.userData (written.1.mapError .store), ctx), { v with cache := c }) := by
      simp only [Operation.program, recordFirstLogin, hwriter, Program.runBy_bind,
        Program.runBy_perform, Action.stepBy, Action.step, Site.onStore, hlater]
      rw [hafter]
      rfl
    rw [hrun]
    refine ⟨fun t => .same ?_, rfl, hctx, ?_, rfl, rfl, hheld'⟩
    · simp only [Operation.answer, hwriter]
      rfl
    · simp only [Operation.effect, hwriter]
      rfl

theorem runBy_program_deleteUser (target : Uid) (hctx : ctx.Sound settings (w.answers settings))
    (hheld : w.cache.Holds (Current S settings (w.answers settings) w.store)) :
    Outcome S settings read ctx (.deleteUser target) w
      (((Operation.deleteUser target).program settings ctx).runBy read w) := by
  cases hsubject : subject ctx.auth with
  | error e =>
    have hrun : ((Operation.deleteUser target).program settings ctx).runBy read w =
        ((.deleted (.error e), ctx), w) := by
      simp only [Operation.program, deleteUser, hsubject, pure_bind, Program.runBy_pure]
    rw [hrun]
    refine ⟨fun t => .same ?_, rfl, hctx, ?_, rfl, rfl, hheld⟩
    · simp only [Operation.answer, hsubject]
      rfl
    · simp only [Operation.effect, hsubject]
      rfl
  | ok uid =>
    -- asking for the authority takes time and nothing else
    obtain ⟨v, hv, hcache, hasked⟩ : ∃ v, v.Agrees w ∧ v.cache = w.cache ∧
        w.inquire settings.timeout (askAuthority ctx.auth) =
          ((askAuthority ctx.auth).answer (w.answers settings), v) :=
      ⟨_, ⟨rfl, rfl, rfl⟩, rfl, rfl⟩
    cases hactor : ((askAuthority ctx.auth).answer (w.answers settings)).found?.any
        UserAuth.canAdministrate with
    | false =>
      have hrun : ((Operation.deleteUser target).program settings ctx).runBy read w =
          ((.deleted (.error (.forbidden .notAdministrator)), ctx), v) := by
        simp only [Operation.program, deleteUser, hsubject, Program.runBy_bind,
          Program.runBy_perform, Action.stepBy, Action.step, hasked, hactor, Bool.false_eq_true,
          if_false, Program.runBy_pure]
      rw [hrun]
      refine ⟨fun t => .same ?_, rfl, hctx, ?_, hv.campus, hv.delay, hv.store ▸ hcache ▸ hheld⟩
      · simp only [Operation.answer, hsubject, hactor]
        rfl
      · simp only [Operation.effect, hactor, Bool.and_false, Bool.false_eq_true, if_false]
        exact hv.store
    | true =>
      let forgotten := (w.cache.invalidate (Cache.Key.user target)).invalidate
        (Cache.Key.stamps target)
      have hrun : ((Operation.deleteUser target).program settings ctx).runBy read w =
          ((.deleted (.ok (w.store.row? target).isSome), ctx),
            { v with store := (w.store.delete target).2, cache := forgotten }) := by
        simp only [Operation.program, deleteUser, hsubject, Program.runBy_bind,
          Program.runBy_perform, Action.stepBy, Action.step, hasked, hactor, if_true,
          Program.runBy_pure, Site.onStore, hv.store, hcache]
        rfl
      rw [hrun]
      refine ⟨fun t => .same ?_, rfl, hctx, ?_, hv.campus, hv.delay, ?_⟩
      · simp only [Operation.answer, hsubject, hactor]
        rfl
      · simp only [Operation.effect, hsubject, hactor]
        rfl
      · -- nothing of the user is left, so nothing is out of date
        have hforgotten := (hheld.invalidate (Cache.Key.user target)).mono fun _ _ h =>
          h.2.of_invalidated h.1 fun u hu => Store.data?_put_of_ne hu none
        exact (hforgotten.invalidate (Cache.Key.stamps target)).mono fun _ _ h => h.2

/-- Every operation answers and leaves what it should, and everything in the cache is current
then. -/
theorem runBy_program (hS : ∀ a ∈ S, ∀ b ∈ S, a.SameView b → a.SameStanding b)
    (hread : Cache.Truthful read) (hyear : FourDigits w.wallClock.date.year) (hauth : ctx.auth ∈ S)
    (hctx : ctx.Sound settings (w.answers settings))
    (hheld : w.cache.Holds (Current S settings (w.answers settings) w.store)) (op : Operation) :
    Outcome S settings read ctx op w ((op.program settings ctx).runBy read w) := by
  cases op with
  | statusFeed => exact runBy_program_statusFeed hS hread hauth hctx hheld
  | academicsFeed => exact runBy_program_academicsFeed hread hctx hheld
  | delegateStudents => exact runBy_program_delegateStudents hctx hheld
  | setPreferredName value => exact runBy_program_setPreferredName value hctx hheld
  | recordFirstLogin => exact runBy_program_recordFirstLogin hyear hctx hheld
  | deleteUser target => exact runBy_program_deleteUser target hctx hheld

end

end CampusView
