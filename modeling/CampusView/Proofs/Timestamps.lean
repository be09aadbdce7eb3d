import CampusView.Proofs.SparedKeys
import CampusView.Proofs.UnderConduct
import CampusView.Sighting
import Mathlib.Data.List.Induction

/-!
# When the time of the last change moves

The stamp of a status feed is kept for a week from when it was set, and not longer when the same
content is seen again. So it is not only the content that decides about the time that is shown. A
`Mark` is the stamp with the reading of the clock at which it was set, and `Mark.next` is what a
sighting makes of it.

The cache keeps what the mark says, as far as it lasts (`Site.Marked`). Every turn keeps it so, with
the next mark if the feed was seen (`Site.Marked.sighting`), and else with the same one, unless the
user is deleted (`Site.Marked.turn`). So the mark that a run leaves was set in one of its sightings
(`Site.Stamped.after`), and it is known when the time that is shown stays
(`SeenTwice.timestamp_eq`).
-/

namespace CampusView

open Json Time

/-! ### Marks -/

/-- A stamp, and what the clock read when it was set. -/
structure Mark where
  last : LastModified
  since : Nanos

namespace Mark

/-- The stamp still lasts. -/
def isLive (now : Nanos) (m : Mark) : Bool := now < m.since + stampTtl

/-- The mark that a sighting sets. -/
def ofSighting (s : Sighting) : Mark := ⟨⟨s.hash, s.wallClock⟩, s.clock⟩

/-- The mark after a sighting. It stays while it lasts and the content is the same. -/
def next (o : Option Mark) (s : Sighting) : Mark :=
  ((o.filter (isLive s.clock)).filter fun m => m.last.hash == s.hash).getD (ofSighting s)

@[simp] theorem hash_next (o : Option Mark) (s : Sighting) :
    (next o s).last.hash = s.hash := by
  unfold next
  cases h : (o.filter (isLive s.clock)).filter fun m => m.last.hash == s.hash with
  | none => rfl
  | some m => exact eq_of_beq (Option.filter_eq_some_iff.1 h).2

theorem next_of_same {m : Mark} {s : Sighting} (h : s.hash = m.last.hash) :
    next (some m) s = if s.clock < m.since + stampTtl then m else ofSighting s := by
  have hhash : (m.last.hash == s.hash) = true := beq_iff_eq.2 h.symm
  rw [next, Option.filter_some]
  by_cases hlive : s.clock < m.since + stampTtl
  · have hlive' : isLive s.clock m = true := decide_eq_true hlive
    rw [if_pos hlive, if_pos hlive', Option.filter_some, if_pos hhash, Option.getD_some]
  · have hlive' : ¬isLive s.clock m = true := fun h => hlive (of_decide_eq_true h)
    rw [if_neg hlive, if_neg hlive', Option.filter_none, Option.getD_none]

end Mark

/-! ### The cache keeps the mark -/

/-- From now on the cache has the stamp of the mark while that lasts. -/
def Site.Marked (w : Site) (uid : Uid) (view : String) (o : Option Mark) : Prop :=
  ∀ t, w.clock ≤ t → (w.cache.read t (Cache.Key.stamp uid view)).bind decodeText? =
    (o.filter (Mark.isLive t)).map Mark.last

section

variable {settings : Settings} {u : Conduct} {ctx : Context} {uid : Uid} {view : String} {w : Site}
  {o : Option Mark}

theorem Site.Marked.empty (h : w.cache = ∅) : w.Marked uid view none := fun t _ => by
  rw [h, Cache.read_empty]
  rfl

theorem Site.Marked.begin (h : w.Marked uid view o) (t : Turn) : (t.begin w).Marked uid view o :=
  fun later hlater => h later (Nat.le_trans (Nat.le_add_right _ _) hlater)

theorem Site.Marked.spared {p : Program α} {Q : α → Prop} (h : w.Marked uid view o)
    (hp : p.Confined (Touch.Spares (Cache.Key.stamp uid view)) Q) (u : Conduct) :
    (p.runUnder u w).2.Marked uid view o := by
  obtain ⟨hclock, hread⟩ := hp.read u w
  intro t ht
  rw [hread t ht]
  exact h t (Nat.le_trans hclock ht)

/-- What a stamp is, and the site after it. -/
theorem runUnder_stamp_eq (u : Conduct) (key hash : String) (w : Site) :
    (stamp key hash).runUnder u w =
      match ((w.cache.read w.clock key).bind (decodeText? (α := LastModified))).filter
        fun m => m.hash == hash with
      | some m => (m, w)
      | none => (⟨hash, w.wallClock⟩, { w with
          wallClock := w.wallClock.tick 1000
          cache := w.cache.write w.clock key (encodeText (LastModified.mk hash w.wallClock))
            stampTtl }) := by
  cases hlast : ((w.cache.read w.clock key).bind (decodeText? (α := LastModified))).filter
      fun m => m.hash == hash with
  | some m =>
    simp only [stamp, Program.cached, Program.runUnder_bind, Program.runUnder_perform,
      Program.runUnder_pure, Action.stepUnder, Action.step, hlast]
  | none =>
    simp only [stamp, Program.cached, Program.runUnder_bind, Program.runUnder_perform,
      Program.runUnder_pure, Action.stepUnder, Action.step, hlast, Program.remember]

/-- A stamp is that of the next mark, which the cache keeps. -/
theorem Site.Marked.stamp (h : w.Marked uid view o) (hwall : Regular w.wallClock) (u : Conduct)
    {s : Sighting} (hclock : s.clock = w.clock) (hshown : s.wallClock = w.wallClock) :
    ∃ v : Site,
      (stamp (Cache.Key.stamp uid view) s.hash).runUnder u w = ((Mark.next o s).last, v) ∧
        v.clock = w.clock ∧ v.Marked uid view (some (Mark.next o s)) := by
  have hlast : ((o.filter (Mark.isLive w.clock)).map Mark.last).filter (fun m => m.hash == s.hash) =
      ((o.filter (Mark.isLive w.clock)).filter fun m => m.last.hash == s.hash).map Mark.last :=
    Option.filter_map
  rw [runUnder_stamp_eq, h w.clock (Nat.le_refl _), hlast, Mark.next, hclock]
  cases hkept : (o.filter (Mark.isLive w.clock)).filter fun m => m.last.hash == s.hash with
  | some m =>
    obtain rfl : o = some m :=
      (Option.filter_eq_some_iff.1 (Option.filter_eq_some_iff.1 hkept).1).1
    exact ⟨w, rfl, rfl, h⟩
  | none =>
    have hread := @LastModified.decodeText?_of_regular ⟨s.hash, w.wallClock⟩ hwall
    rw [Option.getD_none, Mark.ofSighting, hclock, hshown]
    refine ⟨_, rfl, rfl, fun t ht => ?_⟩
    rw [Cache.read_write _ _ _ _ _ _ _ ht, if_pos rfl]
    by_cases hlive : t < w.clock + stampTtl
    · simp [hlive, Option.filter, Mark.isLive, hread]
    · simp [hlive, Option.filter, Mark.isLive]

/-- A request for a status feed is answered with the stamp of what it shows, and nothing else is
done after the feed is there. -/
theorem runUnder_statusFeed (huid : ctx.auth.userId = some uid) :
    ∃ feed ctx' v, (currentFeed settings ctx uid).runUnder u w = ((feed, ctx'), v) ∧
      v.wallClock = w.wallClock ∧ (statusFeed settings ctx).runUnder u w =
        let r := (CampusView.stamp (Cache.Key.stamp uid (viewKey ctx.auth))
          (contentHash feed)).runUnder u v
        ((.ok { feed with lastModified := some r.1 }, ctx'), r.2) := by
  cases hfound : (w.cache.read w.clock (Cache.Key.status uid (viewKey ctx.auth))).bind
      (decodeText? (α := UserFeed)) with
  | some feed =>
    have hrun : (currentFeed settings ctx uid).runUnder u w = ((feed, ctx), w) :=
      runUnder_currentFeed_hit hfound
    refine ⟨feed, ctx, w, hrun, rfl, ?_⟩
    simp only [statusFeed, subject, huid, Program.runUnder_bind, hrun, Program.runUnder_pure]
  | none =>
    have hrun := @runUnder_currentFeed_miss settings u ctx uid w hfound
    refine ⟨_, _, _, hrun, rfl, ?_⟩
    have hauth : (ctx.settle (w.composition settings u ctx uid).resolution).auth = ctx.auth := rfl
    simp only [statusFeed, subject, huid, Program.runUnder_bind, hrun, hauth, Program.runUnder_pure]

end

/-! ### Turns -/

section

variable {settings : Settings} {u : Conduct} {uid : Uid} {view : String} {o : Option Mark}
  {t : Turn} {d : Desk}

/-- A turn in which the feed is seen: the feed, then its stamp. -/
theorem Desk.turnUnder_statusFeed (u : Conduct) (settings : Settings) {number : Nat} {ctx : Context}
    (herrand : t.errand = .within number .statusFeed) (hctx : d.opened[number]? = some ctx)
    (huid : ctx.auth.userId = some uid) :
    ∃ feed ctx' v, (currentFeed settings ctx uid).runUnder u (t.begin d.site) = ((feed, ctx'), v) ∧
      v.wallClock = t.wallClock ∧
      let r := (stamp (Cache.Key.stamp uid (viewKey ctx.auth)) (contentHash feed)).runUnder u v
      d.turnUnder u settings t = (some (.statusFeed (.ok { feed with lastModified := some r.1 })),
        { site := r.2, opened := d.opened.set number ctx' }) := by
  obtain ⟨feed, ctx', v, hfeed, hwall, hrun⟩ :=
    @runUnder_statusFeed settings u ctx uid (t.begin d.site) huid
  refine ⟨feed, ctx', v, hfeed, hwall, ?_⟩
  simp only [turnUnder, herrand, hctx, Operation.program, Program.runUnder_bind, hrun,
    Program.runUnder_pure]

/-- A turn in which the feed is seen shows the stamp of the next mark, and the cache keeps that. -/
theorem Site.Marked.sighting (h : d.site.Marked uid view o) (hwall : Regular t.wallClock)
    (hasks : d.asksFor? t = some (uid, view)) :
    ∃ s, d.sighting? u settings uid view t = some s ∧
      s.timestamp = (Mark.next o s).last.timestamp ∧
      (d.turnUnder u settings t).2.site.Marked uid view (some (Mark.next o s)) := by
  obtain ⟨number, ctx, herrand, hctx, huid, rfl⟩ := Desk.asksFor?_eq_some_iff.1 hasks
  obtain ⟨feed, ctx', v, hfeed, hwall', hturn⟩ :=
    Desk.turnUnder_statusFeed u settings herrand hctx huid
  have hspared := (h.begin t).spared (@spares_stamp_currentFeed settings ctx _ _ uid) u
  rw [hfeed] at hspared
  let s : Sighting := ⟨contentHash feed, t.wallClock, v.clock, t.wallClock⟩
  obtain ⟨v', hstamp, hclock, hmarked⟩ :=
    hspared.stamp (hwall' ▸ hwall) u (s := s) rfl hwall'.symm
  rw [hstamp] at hturn
  refine ⟨{ s with timestamp := (Mark.next o s).last.timestamp }, ?_, rfl, ?_⟩
  · rw [Desk.sighting?, if_pos hasks, hturn]
    simp [hclock, s]
  · rw [hturn]
    exact hmarked

/-- What a sighting shows is the time of the next mark. -/
theorem Site.Marked.seen {s : Sighting} (h : d.site.Marked uid view o)
    (hwall : Regular t.wallClock) (hs : d.sighting? u settings uid view t = some s) :
    s.timestamp = (Mark.next o s).last.timestamp ∧
      (d.turnUnder u settings t).2.site.Marked uid view (some (Mark.next o s)) := by
  obtain ⟨s₁, hs₁, h⟩ := @Site.Marked.sighting settings u _ _ _ _ _ h hwall
    (Desk.asksFor?_of_sighting? hs)
  obtain rfl := Option.some.inj (hs₁.symm.trans hs)
  exact h

/-- Any other turn leaves the mark, unless it deletes the user. -/
theorem Site.Marked.turn (h : d.site.Marked uid view o)
    (hasks : d.asksFor? t ≠ some (uid, view))
    (hdelete : ∀ number, t.errand ≠ .within number (.deleteUser uid)) :
    (d.turnUnder u settings t).2.site.Marked uid view o := by
  unfold Desk.turnUnder
  cases herrand : t.errand with
  | enter session => exact (h.begin t).spared (spares_stamp_authenticate session) u
  | within number operation =>
    dsimp only
    cases hctx : d.opened[number]? with
    | none => exact h.begin t
    | some ctx =>
      refine (h.begin t).spared (spares_stamp_program (fun hfeed => hasks ?_) fun hdel =>
        hdelete number (hdel ▸ herrand)) u
      obtain ⟨rfl, huid, hview⟩ := hfeed
      exact Desk.asksFor?_eq_some_iff.2 ⟨number, ctx, herrand, hctx, huid, hview⟩

/-- To delete the user forgets the mark, if it is not refused. -/
theorem Site.Marked.deleteUser {w : Site} (h : w.Marked uid view o) (settings : Settings)
    (u : Conduct) (auth : Authentication) :
    ((CampusView.deleteUser settings auth uid).runUnder u w).2.Marked uid view o ∨
      ((CampusView.deleteUser settings auth uid).runUnder u w).2.Marked uid view none := by
  unfold CampusView.deleteUser
  cases subject auth with
  | error e => exact .inl h
  | ok _ =>
    have hasked := h.spared (confined_inquire settings.timeout (askAuthority auth)) u
    dsimp only
    rw [Program.runUnder_bind]
    split
    · right
      intro t _
      have hcovers : Cache.covers (Cache.Key.stamps uid) (Cache.Key.stamp uid view) = true :=
        (Cache.Slot.covers_stamps uid (.stamp uid view)).2 ⟨rfl, rfl⟩
      simp only [Program.runUnder_bind, Program.runUnder_perform, Program.runUnder_pure,
        Action.stepUnder, Action.step, Cache.read_invalidate, hcovers, if_true]
      rfl
    · exact .inl hasked

/-- No turn sets a mark but by a sighting. -/
theorem Site.Marked.turn_or (h : d.site.Marked uid view o)
    (hasks : d.asksFor? t ≠ some (uid, view)) :
    (d.turnUnder u settings t).2.site.Marked uid view o ∨
      (d.turnUnder u settings t).2.site.Marked uid view none := by
  by_cases hdelete : ∃ number, t.errand = .within number (.deleteUser uid)
  · obtain ⟨number, herrand⟩ := hdelete
    unfold Desk.turnUnder
    simp only [herrand]
    cases hctx : d.opened[number]? with
    | none => exact .inl (h.begin t)
    | some ctx =>
      simp only [Operation.program, Program.runUnder_bind, Program.runUnder_pure]
      exact (h.begin t).deleteUser settings u ctx.auth
  · exact .inl (h.turn hasks fun number herrand => hdelete ⟨number, herrand⟩)

end

/-! ### Runs -/

/-- The mark was set in one of the sightings, and all since then show it. -/
def Mark.SetIn (seen : List Sighting) (m : Mark) : Prop :=
  ∃ earlier s₀ since, seen = earlier ++ s₀ :: since ∧ s₀.clock = m.since ∧
    s₀.wallClock = m.last.timestamp ∧
      ∀ s ∈ s₀ :: since, s.hash = m.last.hash ∧ s.timestamp = m.last.timestamp

/-- The mark that the cache keeps, if any, was set in one of the sightings. -/
def Site.Stamped (w : Site) (uid : Uid) (view : String) (seen : List Sighting) : Prop :=
  ∃ o, w.Marked uid view o ∧ ∀ m ∈ o, Mark.SetIn seen m

section

variable {settings : Settings} {u : Conduct} {uid : Uid} {view : String} {seen : List Sighting}
  {s : Sighting} {o : Option Mark} {t : Turn} {d : Desk}

/-- The mark after a sighting that shows it was set then or before. -/
theorem Mark.SetIn.next (h : ∀ m ∈ o, SetIn seen m)
    (hs : s.timestamp = (next o s).last.timestamp) : SetIn (seen ++ [s]) (next o s) := by
  have hshows : s.hash = (Mark.next o s).last.hash ∧
      s.timestamp = (Mark.next o s).last.timestamp := ⟨(Mark.hash_next o s).symm, hs⟩
  revert hshows
  rw [Mark.next]
  cases hkept : (o.filter (isLive s.clock)).filter fun m => m.last.hash == s.hash with
  | none =>
    intro hshows
    exact ⟨seen, s, [], rfl, rfl, rfl, List.forall_mem_singleton.2 hshows⟩
  | some m =>
    intro hshows
    have hm : o = some m := (Option.filter_eq_some_iff.1 (Option.filter_eq_some_iff.1 hkept).1).1
    obtain ⟨earlier, s₀, since, rfl, hclock, hwall, hall⟩ := h m hm
    refine ⟨earlier, s₀, since ++ [s], by simp, hclock, hwall, ?_⟩
    rw [← List.cons_append, List.forall_mem_append, List.forall_mem_singleton]
    exact ⟨hall, hshows⟩

theorem Site.Stamped.turn (h : d.site.Stamped uid view seen) (hwall : Regular t.wallClock) :
    (d.turnUnder u settings t).2.site.Stamped uid view
      (seen ++ (d.sighting? u settings uid view t).toList) := by
  obtain ⟨o, hmarked, hset⟩ := h
  by_cases hasks : d.asksFor? t = some (uid, view)
  · obtain ⟨s, hs, htimestamp, hmarked⟩ := @Site.Marked.sighting settings u _ _ _ _ _ hmarked hwall
      hasks
    rw [hs]
    refine ⟨_, hmarked, fun m hm => ?_⟩
    obtain rfl := Option.some.inj hm
    exact Mark.SetIn.next hset htimestamp
  · rw [Desk.sighting?, if_neg hasks, Option.toList_none, List.append_nil]
    rcases @Site.Marked.turn_or settings u _ _ _ _ _ hmarked hasks with hmarked | hmarked
    · exact ⟨o, hmarked, hset⟩
    · exact ⟨none, hmarked, fun _ h => nomatch h⟩

theorem Site.Stamped.after {ts : List Turn} (h : d.site.Stamped uid view seen)
    (hwall : ∀ t ∈ ts, Regular t.wallClock) :
    (d.after u settings ts).site.Stamped uid view (seen ++ d.sightings u settings uid view ts) := by
  induction ts generalizing d seen with
  | nil => rwa [Desk.sightings, List.append_nil]
  | cons t ts ih =>
    obtain ⟨hwallt, hwall⟩ := List.forall_mem_cons.1 hwall
    rw [Desk.sightings, ← List.append_assoc]
    exact ih (h.turn hwallt) hwall

theorem Site.Marked.after {ts : List Turn} (h : d.site.Marked uid view o)
    (hunseen : d.sightings u settings uid view ts = [])
    (hwall : ∀ t ∈ ts, Regular t.wallClock)
    (hdelete : ∀ t ∈ ts, ∀ number, t.errand ≠ .within number (.deleteUser uid)) :
    (d.after u settings ts).site.Marked uid view o := by
  induction ts generalizing d with
  | nil => exact h
  | cons t ts ih =>
    obtain ⟨hwallt, hwall⟩ := List.forall_mem_cons.1 hwall
    obtain ⟨hdeletet, hdelete⟩ := List.forall_mem_cons.1 hdelete
    rw [Desk.sightings, List.append_eq_nil_iff] at hunseen
    refine ih (h.turn (fun hasks => ?_) hdeletet) hunseen.2 hwall hdelete
    obtain ⟨s, hs, -⟩ := @Site.Marked.sighting settings u _ _ _ _ _ h hwallt hasks
    rw [hs] at hunseen
    exact absurd hunseen.1 (List.cons_ne_nil _ _)

end

/-- The status feed of the user in the view is seen in the turn `t` after some turns, and next in
the turn `t'`. Nobody asks to delete the user in between, and the clock on the wall shows what a
clock can show. -/
structure SeenTwice (u : Conduct) (settings : Settings) (uid : Uid) (view : String) (d : Desk)
    (past : List Turn) (t : Turn) (between : List Turn) (t' : Turn) (s s' : Sighting) : Prop where
  first : (d.after u settings past).sighting? u settings uid view t = some s
  unseen : (d.after u settings (past ++ [t])).sightings u settings uid view between = []
  second : (d.after u settings (past ++ [t] ++ between)).sighting? u settings uid view t' = some s'
  kept : ∀ x ∈ between, ∀ number, x.errand ≠ .within number (.deleteUser uid)
  wallClocks : ∀ x ∈ past ++ [t] ++ between ++ [t'], Regular x.wallClock

section

variable {settings : Settings} {u : Conduct} {uid : Uid} {view : String} {d : Desk}
  {past between : List Turn} {t t' : Turn} {s s' : Sighting}

/-- **The same content shows the same time for a week.** In any run from an empty cache, whatever is
done in it and however the campus systems behave: where two consecutive answers with a status feed
have the same hash, the first one shows the time that an answer set, that one or an earlier one
since which all of them had this hash. The second one shows the same time if it comes within a week
of when the time was set. Else it shows what the clock on the wall shows, though the content is the
same. -/
theorem SeenTwice.timestamp_eq (hempty : d.site.cache = ∅)
    (h : SeenTwice u settings uid view d past t between t' s s') (hsame : s'.hash = s.hash) :
    ∃ earlier s₀ since, d.sightings u settings uid view (past ++ [t]) = earlier ++ s₀ :: since ∧
      s₀.wallClock = s.timestamp ∧
      (∀ x ∈ s₀ :: since, x.hash = s.hash ∧ x.timestamp = s.timestamp) ∧
      s'.timestamp = if s'.clock < s₀.clock + stampTtl then s.timestamp else s'.wallClock := by
  obtain ⟨hwall, hwall'⟩ := List.forall_mem_append.1 h.wallClocks
  obtain ⟨hwall, hwallBetween⟩ := List.forall_mem_append.1 hwall
  obtain ⟨hwallPast, hwallt⟩ := List.forall_mem_append.1 hwall
  -- the first answer shows the mark that the cache keeps after it
  have hstamped : d.site.Stamped uid view [] := ⟨none, .empty hempty, fun _ h => nomatch h⟩
  obtain ⟨o, hmarked, hset⟩ := @Site.Stamped.after settings u _ _ _ _ _ hstamped hwallPast
  obtain ⟨htimestamp, hmarked⟩ := hmarked.seen (hwallt t (List.mem_singleton_self t)) h.first
  have hset := Mark.SetIn.next hset htimestamp
  -- nothing sets another mark until the second answer
  have hafter : d.after u settings (past ++ [t]) = (((d.after u settings past).turnUnder u settings
      t).2) := Desk.after_append past [t] d
  rw [← hafter] at hmarked
  have hlater := hmarked.after h.unseen hwallBetween h.kept
  rw [← Desk.after_append] at hlater
  obtain ⟨htimestamp', -⟩ := hlater.seen (hwall' t' (List.mem_singleton_self t')) h.second
  rw [Mark.next_of_same (by rw [hsame, Mark.hash_next])] at htimestamp'
  obtain ⟨earlier, s₀, since, hseen, hclock, hwallClock, hall⟩ := hset
  rw [Mark.hash_next, ← htimestamp] at hall
  refine ⟨earlier, s₀, since, ?_, hwallClock.trans htimestamp.symm, hall, ?_⟩
  · rw [Desk.sightings_append, ← hseen, Desk.sightings, h.first]
    rfl
  · rw [htimestamp', hclock, htimestamp]
    split <;> rfl

end

/-! ### Content that stays -/

namespace ThreeVisits

/-- A user who signed in. -/
def visitor : Context := { auth := .ofSession ⟨[(SessionKey.userId, .string "61889")]⟩ }

/-- The user. -/
def uid : Uid := ⟨"61889"⟩

/-- The view of the user. -/
def view : String := viewKey visitor.auth

/-- What the user is shown while nobody knows anything. -/
def feed : UserFeed := ((Site.prompt ∅).composition {} .silent visitor uid).feed

/-- Nothing is kept of users, and no other feed than that in the cache. -/
structure Shows (w : Site) : Prop where
  store : w.store = ∅
  cache : ∀ t, w.clock ≤ t → ∀ f : UserFeed,
    (w.cache.read t (Cache.Key.status uid view)).bind decodeText? = some f → f = feed

theorem duration_silent (q : Inquiry α) (limit : Nanos) :
    q.duration limit (fun _ _ => 0) = 0 := by
  simp [Inquiry.duration]

/-- No time passes while a feed is composed. -/
theorem clock_composedFor (w : Site) :
    (w.composedFor {} .silent visitor uid).clock = w.clock := by
  have htime : (w.composedFor {} .silent visitor uid).clock =
      w.clock + (FeedAnswers.inquiry {} visitor uid).duration ({} : Settings).timeout
        fun _ _ => 0 := rfl
  rw [htime, duration_silent, Nat.add_zero]

theorem feed_composition {w : Site} (h : w.store = ∅) :
    (w.composition {} .silent visitor uid).feed = feed := by
  have hmeets : ∀ w : Site, w.meets .silent (({} : Settings).timeout) =
      fun _ => (∅ : Campus).within (({} : Settings).timeout) fun _ => 0 := fun _ => rfl
  unfold feed Site.composition
  rw [hmeets, hmeets, h]
  rfl

theorem regular_feed : feed.Regular := Site.regular_composition ..

/-- The feed stays the same, and no time passes while it is composed. -/
theorem Shows.currentFeed {w : Site} (h : Shows w) :
    ∃ ctx v, (currentFeed {} visitor uid).runUnder .silent w = ((feed, ctx), v) ∧
      v.clock = w.clock ∧ Shows v := by
  cases hfound : (w.cache.read w.clock (Cache.Key.status uid view)).bind
      (decodeText? (α := UserFeed)) with
  | some f =>
    obtain rfl := h.cache w.clock (Nat.le_refl _) f hfound
    exact ⟨visitor, w, runUnder_currentFeed_hit hfound, rfl, h⟩
  | none =>
    have hrun := @runUnder_currentFeed_miss {} .silent visitor uid w hfound
    dsimp only at hrun
    rw [feed_composition h.store] at hrun
    refine ⟨_, _, hrun, clock_composedFor w, h.store, fun t ht f hf => ?_⟩
    rw [view, read_composedFor ht] at hf
    dsimp only at hf
    rw [feed_composition h.store] at hf
    split at hf
    · rw [Option.bind_some, regular_feed.decodeText?] at hf
      exact (Option.some.inj hf).symm
    · cases hf

/-- A stamp changes nothing of what is shown. -/
theorem Shows.stamped {w : Site} (h : Shows w) (hash : String) :
    ∃ at_ v, (stamp (Cache.Key.stamp uid view) hash).runUnder .silent w = (⟨hash, at_⟩, v) ∧
      v.clock = w.clock ∧ Shows v := by
  obtain ⟨at_, v, hrun, hagrees, hclock, -⟩ :=
    runBy_stamp Cache.read (Cache.Key.stamp uid view) hash w
  have hstamp := (runUnder_stamp .silent w (Cache.Key.stamp uid view) hash).1.trans hrun
  have hspares : (stamp (Cache.Key.stamp uid view) hash).Confined
      (Touch.Spares (Cache.Key.status uid view)) fun _ => True :=
    confined_stamp (Cache.Key.stamp_ne_status uid uid view view) hash
  obtain ⟨hle, hread⟩ := hspares.read .silent w
  rw [hstamp] at hle hread
  refine ⟨at_, v, hstamp, hclock, hagrees.store.trans h.store, fun t ht f hf => ?_⟩
  rw [hread t ht] at hf
  exact h.cache t (Nat.le_trans hle ht) f hf

/-- Whoever asks sees the feed, whenever that is. -/
theorem Shows.sighting {d : Desk} {t : Turn} {number : Nat} (h : Shows d.site)
    (herrand : t.errand = .within number .statusFeed) (hctx : d.opened[number]? = some visitor) :
    ∃ at_ v ctx, d.sighting? .silent {} uid view t =
        some ⟨contentHash feed, at_, d.site.clock + t.elapsed, t.wallClock⟩ ∧
      (d.turnUnder .silent {} t).2 = { site := v, opened := d.opened.set number ctx } ∧
      v.clock = d.site.clock + t.elapsed ∧ Shows v := by
  have hbegin : Shows (t.begin d.site) := ⟨h.store, fun later hlater =>
    h.cache later (Nat.le_trans (Nat.le_add_right _ _) hlater)⟩
  obtain ⟨ctx, v, hfeed, hclock, hshows⟩ := hbegin.currentFeed
  have huid : visitor.auth.userId = some uid := rfl
  obtain ⟨feed', ctx', v', hfeed', -, hturn⟩ :=
    Desk.turnUnder_statusFeed .silent {} herrand hctx huid
  obtain ⟨⟨rfl, rfl⟩, rfl⟩ : (feed = feed' ∧ ctx = ctx') ∧ v = v' := by
    simpa only [Prod.mk.injEq] using hfeed.symm.trans hfeed'
  obtain ⟨at_, v', hstamp, hclock', hshows'⟩ := hshows.stamped (contentHash feed)
  have hasks : d.asksFor? t = some (uid, view) :=
    Desk.asksFor?_eq_some_iff.2 ⟨number, visitor, herrand, hctx, huid, rfl⟩
  have htime : v'.clock = d.site.clock + t.elapsed := hclock'.trans hclock
  dsimp only at hturn
  rw [← view, hstamp] at hturn
  refine ⟨at_, v', ctx, ?_, by rw [hturn], htime, hshows'⟩
  rw [Desk.sighting?, if_pos hasks, hturn, ← htime]
  rfl

/-- The user was let in three times, and nobody has asked for a feed. -/
def desk : Desk := { site := .prompt ∅, opened := [visitor, visitor, visitor] }

/-- A request for the feed at once. -/
def first : Turn where
  elapsed := 0
  wallClock := ⟨⟨2016, 9, 1, by decide⟩, ⟨33000, 0, by decide⟩⟩
  errand := .within 0 .statusFeed

/-- Another one an hour before a week has passed. -/
def second : Turn where
  elapsed := seconds 601200
  wallClock := ⟨⟨2016, 9, 8, by decide⟩, ⟨29400, 0, by decide⟩⟩
  errand := .within 1 .statusFeed

/-- A third one two hours later. -/
def third : Turn where
  elapsed := seconds 7200
  wallClock := ⟨⟨2016, 9, 8, by decide⟩, ⟨36600, 0, by decide⟩⟩
  errand := .within 2 .statusFeed

theorem sightings_desk : ∃ at_ at' at'' : Instant,
    desk.sighting? .silent {} uid view first =
        some ⟨contentHash feed, at_, 0, first.wallClock⟩ ∧
      (desk.after .silent {} [first]).sighting? .silent {} uid view second =
        some ⟨contentHash feed, at', seconds 601200, second.wallClock⟩ ∧
      (desk.after .silent {} [first, second]).sighting? .silent {} uid view third =
        some ⟨contentHash feed, at'', seconds 608400, third.wallClock⟩ := by
  have hshows : Shows desk.site := ⟨rfl, fun t _ f hf => by
    rw [show desk.site.cache = ∅ from rfl, Cache.read_empty] at hf
    cases hf⟩
  obtain ⟨at_, v, ctx, hfirst, hafter, hclock, hshows⟩ :=
    @Shows.sighting desk first 0 hshows rfl rfl
  obtain ⟨at', v', ctx', hsecond, hafter', hclock', hshows'⟩ :=
    @Shows.sighting { site := v, opened := desk.opened.set 0 ctx } second 1 hshows rfl rfl
  obtain ⟨at'', -, -, hthird, -, -⟩ :=
    @Shows.sighting { site := v', opened := (desk.opened.set 0 ctx).set 1 ctx' } third 2 hshows'
      rfl rfl
  have hone : desk.after .silent {} [first] = { site := v, opened := desk.opened.set 0 ctx } :=
    hafter
  have htwo : desk.after .silent {} [first, second] =
      { site := v', opened := (desk.opened.set 0 ctx).set 1 ctx' } := by
    rw [← hafter', ← hafter]
    rfl
  have hclocks : v.clock + second.elapsed = seconds 601200 ∧
      v'.clock + third.elapsed = seconds 608400 := by
    have hv : v.clock = 0 := hclock
    have hv' : v'.clock = v.clock + second.elapsed := hclock'
    rw [hv', hv]
    exact ⟨by decide, by decide⟩
  rw [← hclocks.1, ← hclocks.2, hone, htwo]
  exact ⟨at_, at', at'', hfirst, hsecond, hthird⟩

theorem regular_wallClocks : ∀ x ∈ [first, second, third], Regular x.wallClock := by
  have hregular : ∀ x : Turn, x.wallClock.time.nano = 0 → Regular x.wallClock := fun x hx h =>
    absurd (hx ▸ h) (by decide)
  exact List.forall_mem_cons.2 ⟨hregular first rfl, List.forall_mem_cons.2
    ⟨hregular second rfl, List.forall_mem_singleton.2 (hregular third rfl)⟩⟩

/-- The second request comes within a week, and is shown the time of the first one. -/
theorem timestamp_eq_withinWeek : ∃ s s',
    SeenTwice .silent {} uid view desk [] first [] second s s' ∧ s'.hash = s.hash ∧
      s'.timestamp = s.timestamp := by
  obtain ⟨at_, at', -, hfirst, hsecond, -⟩ := sightings_desk
  have htwice : SeenTwice .silent {} uid view desk [] first [] second _ _ := {
    first := hfirst
    unseen := rfl
    second := hsecond
    kept := fun x hx => nomatch hx
    wallClocks := fun x hx => regular_wallClocks x (List.mem_append_left [third] hx) }
  obtain ⟨earlier, s₀, since, hseen, -, -, htimestamp⟩ := htwice.timestamp_eq rfl rfl
  -- nothing was seen before the first request
  have hfirst' : desk.sightings .silent {} uid view [first] =
      [⟨contentHash feed, at_, 0, first.wallClock⟩] := by
    rw [Desk.sightings, hfirst]
    rfl
  have hs₀ : s₀.clock = 0 := by
    have hmem : s₀ ∈ desk.sightings .silent {} uid view [first] := by
      rw [show [first] = [] ++ [first] from rfl, hseen]
      simp
    rw [hfirst', List.mem_singleton] at hmem
    rw [hmem]
  rw [hs₀] at htimestamp
  exact ⟨_, _, htwice, rfl, htimestamp.trans (if_pos (by decide : seconds 601200 < 0 + stampTtl))⟩

/-- The third request is shown another time than the second one, though the content has not
changed. -/
theorem timestamp_ne_afterWeek : ∃ s s',
    SeenTwice .silent {} uid view desk [first] second [] third s s' ∧ s'.hash = s.hash ∧
      s'.timestamp ≠ s.timestamp := by
  obtain ⟨at_, at', at'', hfirst, hsecond, hthird⟩ := sightings_desk
  obtain ⟨hwall, hwalls⟩ := List.forall_mem_cons.1 regular_wallClocks
  obtain ⟨hwall', hwalls⟩ := List.forall_mem_cons.1 hwalls
  have hwall'' := List.forall_mem_singleton.1 hwalls
  -- the first request sets the mark
  have hnone : desk.site.Marked uid view none := .empty rfl
  obtain ⟨-, hmarked⟩ := hnone.seen hwall hfirst
  let m : Mark := ⟨⟨contentHash feed, first.wallClock⟩, 0⟩
  change (desk.after .silent {} [first]).site.Marked uid view (some m) at hmarked
  -- which lasts until the second one, but not until the third one
  obtain ⟨hat', hmarked⟩ := hmarked.seen hwall' hsecond
  have hlasts : Mark.next (some m) ⟨contentHash feed, at', seconds 601200, second.wallClock⟩ = m :=
    (Mark.next_of_same rfl).trans (if_pos (by decide : seconds 601200 < 0 + stampTtl))
  rw [hlasts] at hat' hmarked
  change (desk.after .silent {} [first, second]).site.Marked uid view (some m) at hmarked
  obtain ⟨hat'', -⟩ := hmarked.seen hwall'' hthird
  have hends : Mark.next (some m) ⟨contentHash feed, at'', seconds 608400, third.wallClock⟩ =
      ⟨⟨contentHash feed, third.wallClock⟩, seconds 608400⟩ :=
    (Mark.next_of_same rfl).trans (if_neg (by decide : ¬seconds 608400 < 0 + stampTtl))
  rw [hends] at hat''
  have hmoves : at'' ≠ at' := by
    rw [show at'' = third.wallClock from hat'', show at' = first.wallClock from hat']
    decide
  exact ⟨_, _, {
    first := hsecond
    unseen := rfl
    second := hthird
    kept := fun x hx => nomatch hx
    wallClocks := regular_wallClocks }, rfl, hmoves⟩

end ThreeVisits

end CampusView
