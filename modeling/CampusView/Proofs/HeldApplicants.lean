import CampusView.Occurrence
import CampusView.Proofs.SparedKeys
import Mathlib.Data.List.Induction

/-!
# For how long applicants are held

Whether somebody is a held applicant is found out once and then kept in the cache, for a short time
if they are held and for a longer one if not. A `Verdict` is what was found out, with the reading of
the clock then.

The cache keeps the last verdict about a user as far as it lasts, or none (`Site.Recalls`). A turn
that opens a request of the user goes by that verdict or finds out a new one
(`Site.Recalls.authenticate`), and whatever else happens leaves the verdict or forgets it
(`Desk.recalls_turnUnder_of_other`, `Site.Recalls.forget`). So the verdict that is kept after a run
was found out in it (`Desk.recalls_through`), and nobody is held or let in but as the campus
systems told then or not long before (`Desk.opened_as_told`). A verdict lasts from when it was
found out, and the directory may have answered one call before that (`Site.Told.times`).
-/

namespace CampusView

open Time

/-! ### The clock -/

namespace Desk

theorem clock_le_turnUnder (u : Conduct) (settings : Settings) (t : Turn) (d : Desk) :
    (t.begin d.site).clock ≤ (d.turnUnder u settings t).2.site.clock := by
  unfold turnUnder
  cases t.errand with
  | enter session => exact Program.clock_le_runUnder u _ _
  | within number operation =>
    dsimp only
    cases d.opened[number]? with
    | none => exact Nat.le_refl _
    | some ctx => exact Program.clock_le_runUnder u _ _

theorem clock_le_occur (settings : Settings) (d : Desk) (o : Occurrence) :
    d.site.clock ≤ (d.occur settings o).site.clock := by
  cases o with
  | turn u t => exact Nat.le_trans (Nat.le_add_right _ _) (clock_le_turnUnder u settings t d)
  | forget elapsed root => exact Nat.le_add_right _ _

theorem clock_le_through (settings : Settings) (occurrences : List Occurrence) (d : Desk) :
    d.site.clock ≤ (d.through settings occurrences).site.clock := by
  induction occurrences generalizing d with
  | nil => exact Nat.le_refl _
  | cons o rest ih => exact Nat.le_trans (clock_le_occur settings d o) (ih _)

end Desk

/-! ### Verdicts -/

/-- What was found out about somebody, and what the clock read then. -/
structure Verdict where
  held : Bool
  since : Nanos

namespace Verdict

/-- How long the verdict is kept. -/
def ttl (settings : Settings) (v : Verdict) : Nanos :=
  if v.held then settings.heldTtl else settings.cacheTtl

/-- The verdict still lasts. -/
def isLive (settings : Settings) (now : Nanos) (v : Verdict) : Bool :=
  now < v.since + v.ttl settings

/-- What the cache says about somebody. -/
def entry (v : Verdict) : String := if v.held then heldEntry else clearEntry

theorem entry_beq (v : Verdict) : (v.entry == heldEntry) = v.held := by
  unfold entry
  cases v.held <;> rfl

end Verdict

/-- The request that is opened for a session of somebody who is held or not. -/
def Authentication.admitted (auth : Authentication) (held : Bool) : Authentication :=
  { auth with userId := if held then none else auth.userId }

/-- From now on the cache has the verdict while that lasts. -/
def Site.Recalls (w : Site) (settings : Settings) (uid : Uid) (o : Option Verdict) : Prop :=
  ∀ t, w.clock ≤ t → w.cache.read t (Cache.Key.admission uid) =
    (o.filter (Verdict.isLive settings t)).map Verdict.entry

section

variable {settings : Settings} {u : Conduct} {uid : Uid} {w : Site} {o : Option Verdict}

theorem Site.Recalls.empty (h : w.cache = ∅) : w.Recalls settings uid none := fun t _ => by
  rw [h, Cache.read_empty]
  rfl

theorem Site.Recalls.wait (h : w.Recalls settings uid o) (n : Nanos) :
    (w.wait n).Recalls settings uid o :=
  fun t ht => h t (Nat.le_trans (Nat.le_add_right _ _) ht)

theorem Site.Recalls.begin (h : w.Recalls settings uid o) (t : Turn) :
    (t.begin w).Recalls settings uid o := h.wait t.elapsed

/-- What is forgotten may be the verdict. -/
theorem Site.Recalls.forget (h : w.Recalls settings uid o) (root : String) :
    ∃ o', { w with cache := w.cache.invalidate root }.Recalls settings uid o' ∧
      ∀ v ∈ o', v ∈ o := by
  by_cases hcovers : Cache.covers root (Cache.Key.admission uid) = true
  · refine ⟨none, fun t _ => ?_, fun v hv => nomatch hv⟩
    rw [Cache.read_invalidate, if_pos hcovers]
    rfl
  · refine ⟨o, fun t ht => ?_, fun v hv => hv⟩
    rw [Cache.read_invalidate, if_neg hcovers]
    exact h t ht

/-! ### Requests that find out nothing about the user -/

/-- What is touched is not written under the key. -/
def Touch.WritesElsewhere (key : String) (t : Touch) : Prop := t ≠ .writesCache key

/-- An action that writes elsewhere leaves the verdict or forgets it. -/
theorem Site.Recalls.step {action : Action α}
    (hwrites : action.touch.isChange = true →
      action.touch.WritesElsewhere (Cache.Key.admission uid))
    (h : w.Recalls settings uid o) (u : Conduct) :
    ∃ o', (action.stepUnder u w).2.Recalls settings uid o' ∧ ∀ v ∈ o', v ∈ o := by
  cases action with
  | writeCache k text ttl =>
    have hk : k ≠ Cache.Key.admission uid := fun hk => hwrites rfl (congrArg Touch.writesCache hk)
    refine ⟨o, fun t ht => ?_, fun v hv => hv⟩
    exact ((Cache.read_write _ _ _ _ _ _ _ ht).trans (if_neg (Ne.symm hk))).trans (h t ht)
  | invalidate root => exact h.forget root
  | inquire limit q => exact ⟨o, h.wait _, fun v hv => hv⟩
  | readClock =>
    obtain ⟨t, ht⟩ := step_readClock w
    refine ⟨o, ?_, fun v hv => hv⟩
    show (Action.readClock.step w).2.Recalls settings uid o
    rw [ht]
    exact h
  | _ => exact ⟨o, h, fun v hv => hv⟩

/-- A program that writes elsewhere leaves the verdict or forgets it. -/
theorem Site.Recalls.confined {p : Program α} {Q : α → Prop}
    (hp : p.Confined (Touch.WritesElsewhere (Cache.Key.admission uid)) Q)
    (h : w.Recalls settings uid o) (u : Conduct) :
    ∃ o', (p.runUnder u w).2.Recalls settings uid o' ∧ ∀ v ∈ o', v ∈ o := by
  induction p generalizing w o with
  | done a => exact ⟨o, h, fun v hv => hv⟩
  | act action next ih =>
    obtain ⟨o₁, h₁, ho₁⟩ := h.step hp.1 u
    obtain ⟨o₂, h₂, ho₂⟩ := ih _ (hp.2 _) h₁
    exact ⟨o₂, h₂, fun v hv => ho₁ v (ho₂ v hv)⟩

open Cache (Slot)

/-- Another slot has another key than whether the user is held. -/
theorem key_ne_admission {s : Slot} (h : s ≠ .admission uid) :
    Touch.WritesElsewhere (Cache.Key.admission uid) (.writesCache s.key) :=
  fun hkey => h (Slot.key_injective (Touch.writesCache.inj hkey))

/-- What is done within a request finds out nothing about anybody. -/
theorem writesElsewhere_program (settings : Settings) (ctx : Context) (operation : Operation) :
    (operation.program settings ctx).Confined
      (Touch.WritesElsewhere (Cache.Key.admission uid)) fun _ => True := by
  cases operation with
  | statusFeed =>
    refine (confined_statusFeed settings ctx fun u _ => ?_).bind fun r _ => trivial
    exact ⟨key_ne_admission (s := .status u _) nofun, key_ne_admission (s := .stamp u _) nofun⟩
  | academicsFeed =>
    exact (confined_academicsFeed settings ctx fun u =>
      key_ne_admission (s := .academics u) nofun).bind fun r _ => trivial
  | delegateStudents =>
    exact (confined_delegateStudents settings ctx.auth).bind fun r _ => trivial
  | setPreferredName value =>
    exact (confined_setPreferredName (fun u => ⟨nofun, nofun⟩) value).bind fun r _ => trivial
  | recordFirstLogin =>
    exact (confined_recordFirstLogin fun u => ⟨nofun, nofun⟩).bind fun r _ => trivial
  | deleteUser target =>
    exact (confined_deleteUser settings nofun nofun nofun ctx.auth).bind fun r _ => trivial

/-- To open a request finds out something only about a user who signed in as themselves. -/
theorem writesElsewhere_authenticate {session : SessionRecord}
    (h : ¬((Authentication.ofSession session).userId = some uid ∧
      (Authentication.ofSession session).isDirect = true)) :
    (authenticate settings session).Confined
      (Touch.WritesElsewhere (Cache.Key.admission uid)) fun ctx => ctx.auth.Of session := by
  refine confined_authenticate_of_direct settings fun v huid hdirect => ?_
  refine key_ne_admission (s := .admission v) fun hslot => h ⟨?_, hdirect⟩
  rw [huid, Slot.admission.inj hslot]

end

/-! ### Requests that find out about the user -/

section

variable {settings : Settings} {u : Conduct} {uid : Uid} {w : Site} {o : Option Verdict}

theorem Site.Told.of_calls {held : Bool} {v v' : Site} (h : w.Told settings u uid held v)
    (hcalls : v'.calls = v.calls) (hclock : v'.clock = v.clock) :
    w.Told settings u uid held v' where
  directory := hcalls ▸ h.directory
  vouched := fun hv => hclock ▸ h.vouched hv
  record := fun hv => hcalls ▸ hclock ▸ h.record hv
  held_iff := h.held_iff

/-- Everything is told at the latest one call after the directory was asked. -/
theorem Site.Told.times {held : Bool} {v : Site} (h : w.Told settings u uid held v) :
    w.directoryTime settings u ≤ v.clock ∧
      v.clock ≤ w.directoryTime settings u + wholeMillis settings.timeout := by
  by_cases hv : u.Vouches settings.timeout w.calls.length uid
  · rw [h.vouched hv]
    exact ⟨Nat.le_refl _, Nat.le_add_right _ _⟩
  · rw [(h.record hv).2]
    exact ⟨Nat.le_add_right _ _, Nat.add_le_add_left (Nat.min_le_right _ _) _⟩

/-- The directory vouches for somebody by an answer. -/
theorem vouches_iff (limit : Nanos) (n : Nat) :
    u.Vouches limit n uid ↔
      (u.answers limit n .directory uid).found?.any DirectoryRecord.vouches = true := by
  unfold Conduct.Vouches
  cases u.answers limit n .directory uid <;> simp [Lookup.found?]

/-- The student record lists an applicant by an answer. -/
theorem listsApplicant_iff (limit : Nanos) (n : Nat) (today : Date) :
    u.ListsApplicant limit n uid today ↔
      (u.answers limit n .recordAffiliations uid).found?.any (onlyApplies · today) = true := by
  unfold Conduct.ListsApplicant
  cases u.answers limit n .recordAffiliations uid <;> simp [Lookup.found?, onlyApplies]

/-- One question leaves the clock on the wall and the cache, and is counted as one call, which takes
as long as the system does, or as the limit. -/
theorem inquireUnder_ask (w : Site) (u : Conduct) (limit : Nanos) (s : System) (uid : Uid) :
    ∃ v, w.inquireUnder u limit (Inquiry.ask s uid) = (u.answers limit w.calls.length s uid, v) ∧
      v.cache = w.cache ∧ v.wallClock = w.wallClock ∧ v.calls = w.calls ++ [⟨s, uid⟩] ∧
      v.clock = w.clock + min (u.delay w.calls.length s) (wholeMillis limit) :=
  ⟨_, rfl, rfl, rfl, rfl, congrArg (w.clock + ·) (Nat.zero_max _)⟩

/-- To find out about somebody is to go by what the campus systems tell. -/
theorem runUnder_findHeld (settings : Settings) (u : Conduct) (uid : Uid) (w : Site) :
    ∃ held v, (findHeld settings uid).runUnder u w = (held, v) ∧ v.cache = w.cache ∧
      w.Told settings u uid held v := by
  -- the directory is asked first
  obtain ⟨w₁, hask₁, hcache₁, hwall₁, hcalls₁, htime₁⟩ :=
    inquireUnder_ask w u settings.timeout .directory uid
  have hvouches := @vouches_iff u uid settings.timeout w.calls.length
  simp only [findHeld, Program.runUnder_bind, Program.runUnder_perform, Action.stepUnder, hask₁]
  split
  · next hany =>
    refine ⟨false, w₁, rfl, hcache₁, ?_, fun _ => htime₁, fun h => absurd (hvouches.2 hany) h, ?_⟩
    · simp [hcalls₁]
    · simp [hvouches.2 hany]
  · next hany =>
    -- the student record is asked if the directory does not vouch
    obtain ⟨w₂, hask₂, hcache₂, hwall₂, hcalls₂, htime₂⟩ :=
      inquireUnder_ask w₁ u settings.timeout .recordAffiliations uid
    obtain ⟨t, hclock⟩ := step_readClock w₂
    have hlength : w₁.calls.length = w.calls.length + 1 := by simp [hcalls₁]
    have hlists := @listsApplicant_iff u uid settings.timeout w₁.calls.length w.wallClock.date
    rw [← hwall₁, ← hwall₂] at hlists
    simp only [Program.runUnder_bind, Program.runUnder_perform, Action.stepUnder, hask₂, hclock,
      Program.runUnder_pure]
    refine ⟨_, _, rfl, hcache₂.trans hcache₁, ?_, fun h => absurd (hvouches.1 h) hany,
      fun _ => ⟨?_, ?_⟩, ?_⟩
    · simp [hcalls₂, hcalls₁]
    · simp [hcalls₂, hcalls₁]
    · rw [htime₂, htime₁, hlength, Site.directoryTime]
    · rw [← hlists, hwall₂, hwall₁, hlength]
      exact (and_iff_right fun h => hany (hvouches.1 h)).symm

/-- A verdict that is written is the one that is kept. -/
theorem Site.recalls_write (v : Verdict) (hsince : v.since = w.clock) :
    ((Action.writeCache (Cache.Key.admission uid) v.entry (v.ttl settings)).step w).2.Recalls
      settings uid (some v) := fun t ht => by
  refine (Cache.read_write _ _ _ _ _ _ _ ht).trans ((if_pos rfl).trans ?_)
  show (if t < w.clock + v.ttl settings then some v.entry else none) = _
  by_cases hlive : t < w.clock + v.ttl settings <;>
    simp [Option.filter, Verdict.isLive, hsince, hlive]

/-- Somebody is held by the verdict that is kept, while it lasts, or else as the campus systems tell
now. -/
theorem Site.Recalls.isHeld (h : w.Recalls settings uid o) (u : Conduct) :
    ∃ v w', (isHeld settings uid).runUnder u w = (v.held, w') ∧ w'.Recalls settings uid (some v) ∧
      ((o = some v ∧ v.isLive settings w.clock = true ∧ w' = w) ∨
        (v.since = w'.clock ∧ w.Told settings u uid v.held w')) := by
  have hread := h w.clock (Nat.le_refl _)
  cases hlast : o.filter (Verdict.isLive settings w.clock) with
  | some v =>
    obtain ⟨rfl, hlive⟩ := Option.filter_eq_some_iff.1 hlast
    rw [hlast] at hread
    refine ⟨v, w, ?_, h, .inl ⟨rfl, hlive, rfl⟩⟩
    simp only [CampusView.isHeld, Program.runUnder_bind, Program.runUnder_perform,
      Action.stepUnder, Action.step, hread, Option.map_some, Program.runUnder_pure, v.entry_beq]
  | none =>
    rw [hlast] at hread
    obtain ⟨held, w₁, hfind, -, htold⟩ := runUnder_findHeld settings u uid w
    let v : Verdict := ⟨held, w₁.clock⟩
    refine ⟨v, _, ?_, Site.recalls_write v rfl, .inr ⟨rfl, htold.of_calls rfl rfl⟩⟩
    simp only [CampusView.isHeld, Program.runUnder_bind, Program.runUnder_perform,
      Action.stepUnder, Action.step, hread, Option.map_none, hfind]
    cases held <;> rfl

/-- A request of somebody who signed in as themselves is opened by the verdict that is kept, while
it lasts, or else as the campus systems tell now. -/
theorem Site.Recalls.authenticate {session : SessionRecord}
    (hflag : settings.flags.authenticationValidator = true)
    (huid : (Authentication.ofSession session).userId = some uid)
    (hdirect : (Authentication.ofSession session).isDirect = true)
    (h : w.Recalls settings uid o) (u : Conduct) :
    ∃ v w', (authenticate settings session).runUnder u w =
        ({ auth := (Authentication.ofSession session).admitted v.held }, w') ∧
      w'.Recalls settings uid (some v) ∧
      ((o = some v ∧ v.isLive settings w.clock = true ∧ w' = w) ∨
        (v.since = w'.clock ∧ w.Told settings u uid v.held w')) := by
  obtain ⟨v, w', hrun, hrecalls, hsource⟩ := h.isHeld u
  refine ⟨v, w', ?_, hrecalls, hsource⟩
  simp only [CampusView.authenticate, huid, if_pos hdirect, letIn, if_pos hflag,
    Program.runUnder_bind, Program.runUnder_pure, hrun, Authentication.admitted]

end

/-! ### Runs -/

namespace Desk

section

variable {settings : Settings} {u : Conduct} {uid : Uid} {t : Turn} {d : Desk}
  {o : Option Verdict} {held : Bool} {asked since : Nanos} {past : List Occurrence}

theorem ToldIn.append (h : d.ToldIn settings past uid held asked since) (more : List Occurrence) :
    d.ToldIn settings (past ++ more) uid held asked since := by
  obtain ⟨before, u, t, later, rfl, htold, hasked, hsince⟩ := h
  exact ⟨before, u, t, later ++ more, by simp, htold, hasked, hsince⟩

/-- What is told in the last turn. -/
theorem Told.toldIn (h : (d.through settings past).Told settings u t uid held) :
    d.ToldIn settings (past ++ [.turn u t]) uid held
      ((t.begin (d.through settings past).site).directoryTime settings u)
      ((d.through settings past).turnUnder u settings t).2.site.clock :=
  ⟨past, u, t, [], rfl, h, rfl, by rw [through_concat]; rfl⟩

/-- What was told was told at some time that has come. -/
theorem ToldIn.since_le (h : d.ToldIn settings past uid held asked since) :
    since ≤ (d.through settings past).site.clock := by
  obtain ⟨before, u, t, later, rfl, -, -, rfl⟩ := h
  rw [show before ++ .turn u t :: later = (before ++ [.turn u t]) ++ later by simp,
    through_append settings d _ later]
  exact clock_le_through settings later _

theorem ToldIn.times (h : d.ToldIn settings past uid held asked since) :
    asked ≤ since ∧ since ≤ asked + wholeMillis settings.timeout := by
  obtain ⟨before, u, t, later, -, htold, rfl, rfl⟩ := h
  rw [through_concat]
  exact Site.Told.times htold

/-- A turn that does not open a request of the user leaves the verdict or forgets it. -/
theorem recalls_turnUnder_of_other (h : d.site.Recalls settings uid o)
    (hother : ∀ session, t.errand = .enter session →
      ¬((Authentication.ofSession session).userId = some uid ∧
        (Authentication.ofSession session).isDirect = true)) (u : Conduct) :
    ∃ o', (d.turnUnder u settings t).2.site.Recalls settings uid o' ∧ ∀ v ∈ o', v ∈ o := by
  have hbegin := h.begin t
  unfold turnUnder
  cases herrand : t.errand with
  | enter session =>
    exact hbegin.confined (writesElsewhere_authenticate (hother session herrand)) u
  | within number operation =>
    dsimp only
    cases d.opened[number]? with
    | none => exact ⟨o, hbegin, fun v hv => hv⟩
    | some ctx => exact hbegin.confined (writesElsewhere_program settings ctx operation) u

/-- A turn leaves the verdict, or forgets it, or finds out a new one. -/
theorem recalls_turnUnder (hflag : settings.flags.authenticationValidator = true)
    (h : d.site.Recalls settings uid o) (u : Conduct) (t : Turn) :
    ∃ o', (d.turnUnder u settings t).2.site.Recalls settings uid o' ∧ ∀ v ∈ o', v ∈ o ∨
      (d.Told settings u t uid v.held ∧ v.since = (d.turnUnder u settings t).2.site.clock) := by
  by_cases hown : ∃ session, t.errand = .enter session ∧
      (Authentication.ofSession session).userId = some uid ∧
        (Authentication.ofSession session).isDirect = true
  · obtain ⟨session, herrand, huid, hdirect⟩ := hown
    obtain ⟨v, w', hrun, hrecalls, hsource⟩ := (h.begin t).authenticate hflag huid hdirect u
    have hturn : (d.turnUnder u settings t).2.site = w' := by
      simp only [turnUnder, herrand, hrun]
    refine ⟨some v, hturn ▸ hrecalls, fun v' hv' => ?_⟩
    obtain rfl := Option.some.inj hv'
    rcases hsource with ⟨rfl, -, -⟩ | ⟨hsince, htold⟩
    · exact .inl rfl
    · exact .inr ⟨by rwa [Desk.Told, hturn], hturn ▸ hsince⟩
  · obtain ⟨o', h', hold⟩ := recalls_turnUnder_of_other h
      (fun session herrand hsession => hown ⟨session, herrand, hsession⟩) u
    exact ⟨o', h', fun v hv => .inl (hold v hv)⟩

/-- The verdict that is kept after a run was told in it. -/
theorem recalls_through (hflag : settings.flags.authenticationValidator = true)
    (hcache : d.site.cache = ∅) (past : List Occurrence) :
    ∃ o, (d.through settings past).site.Recalls settings uid o ∧
      ∀ v ∈ o, ∃ asked, d.ToldIn settings past uid v.held asked v.since := by
  induction past using List.reverseRecOn with
  | nil => exact ⟨none, .empty hcache, fun v hv => nomatch hv⟩
  | append_singleton past last ih =>
    obtain ⟨o, h, hold⟩ := ih
    rw [through_concat]
    cases last with
    | forget elapsed root =>
      obtain ⟨o', h', hleft⟩ := (h.wait elapsed).forget root
      exact ⟨o', h', fun v hv => (hold v (hleft v hv)).imp fun _ htold => htold.append _⟩
    | turn u t =>
      obtain ⟨o', h', hnew⟩ := recalls_turnUnder hflag h u t
      refine ⟨o', h', fun v hv => ?_⟩
      rcases hnew v hv with hleft | ⟨htold, hsince⟩
      · exact (hold v hleft).imp fun _ htold => htold.append _
      · exact ⟨_, hsince ▸ htold.toldIn⟩

/-- Whoever is held was told so in the last turn or not long before it. -/
theorem toldIn_of_held
    (htold : (d.through settings past).Told settings u t uid true ∨
      ∃ asked since, d.ToldIn settings past uid true asked since ∧
        (t.begin (d.through settings past).site).clock < since + settings.heldTtl) :
    ∃ asked since, d.ToldIn settings (past ++ [.turn u t]) uid true asked since ∧
      since ≤ asked + wholeMillis settings.timeout ∧
      ∀ release, since < release →
        (t.begin (d.through settings past).site).clock < release + settings.heldTtl := by
  rcases htold with htold | ⟨asked, since, hpast, hlive⟩
  · have hcurrent := htold.toldIn
    refine ⟨_, _, hcurrent, hcurrent.times.2, fun release hlt => ?_⟩
    have hnow : (t.begin (d.through settings past).site).clock ≤ _ :=
      Nat.le_trans (Nat.le_add_right _ _) hcurrent.times.1
    exact Nat.lt_of_lt_of_le (Nat.lt_of_le_of_lt hnow hlt) (Nat.le_add_right _ _)
  · exact ⟨asked, since, hpast.append _, hpast.times.2, fun release hlt =>
      Nat.lt_trans hlive (Nat.add_lt_add_right hlt _)⟩

/-- **Whoever signed in as themselves is turned away or let in as the campus systems told**, in this
turn or in an earlier one. What was told earlier counts, from when everything was told, for as long
as applicants are held, or others let in, without being asked about again; and the directory was
done at most one call earlier. So whoever the student record does not list any more is let in at the
latest when the time has passed for which applicants are held, and whoever the directory vouches for
when that time and that of one call have passed. -/
theorem opened_as_told {session : SessionRecord}
    (hflag : settings.flags.authenticationValidator = true) (hcache : d.site.cache = ∅)
    (herrand : t.errand = .enter session)
    (huid : (Authentication.ofSession session).userId = some uid)
    (hdirect : (Authentication.ofSession session).isDirect = true) :
    let last := d.through settings past
    let now := (t.begin last.site).clock
    ∃ held, (last.turnUnder u settings t).1 = some (.opened
        { Authentication.ofSession session with userId := if held then none else some uid }) ∧
      (last.Told settings u t uid held ∨ ∃ asked since,
        d.ToldIn settings past uid held asked since ∧
        asked ≤ since ∧ since ≤ asked + wholeMillis settings.timeout ∧
        since ≤ now ∧ now < since + if held then settings.heldTtl else settings.cacheTtl) ∧
      ∀ release,
        ((∀ asked since, d.ToldIn settings (past ++ [.turn u t]) uid true asked since →
            since < release) →
          release + settings.heldTtl ≤ now → held = false) ∧
        ((∀ asked since, d.ToldIn settings (past ++ [.turn u t]) uid true asked since →
            asked < release) →
          release + wholeMillis settings.timeout + settings.heldTtl ≤ now → held = false) := by
  intro last now
  obtain ⟨o, h, hold⟩ := @recalls_through settings uid d hflag hcache past
  obtain ⟨v, w', hrun, -, hsource⟩ := (h.begin t).authenticate hflag huid hdirect u
  have hreply : (last.turnUnder u settings t).1 =
      some (.opened ((Authentication.ofSession session).admitted v.held)) := by
    simp only [turnUnder, herrand, last, hrun]
  have hafter : (last.turnUnder u settings t).2.site = w' := by
    simp only [turnUnder, herrand, last, hrun]
  have htold : last.Told settings u t uid v.held ∨ ∃ asked since,
      d.ToldIn settings past uid v.held asked since ∧
      asked ≤ since ∧ since ≤ asked + wholeMillis settings.timeout ∧
      since ≤ now ∧ now < since + if v.held then settings.heldTtl else settings.cacheTtl := by
    rcases hsource with ⟨rfl, hlive, -⟩ | ⟨-, htold⟩
    · obtain ⟨asked, hpast⟩ := hold v rfl
      refine .inr ⟨asked, v.since, hpast, hpast.times.1, hpast.times.2, ?_, of_decide_eq_true hlive⟩
      exact Nat.le_trans hpast.since_le (Nat.le_add_right _ _)
    · exact .inl (by rwa [Desk.Told, hafter])
  have hrecent : v.held = true → ∃ asked since,
      d.ToldIn settings (past ++ [.turn u t]) uid true asked since ∧
        since ≤ asked + wholeMillis settings.timeout ∧
        ∀ release, since < release → now < release + settings.heldTtl := by
    intro hheld
    rw [hheld] at htold
    exact toldIn_of_held (htold.imp_right fun ⟨asked, since, hpast, _, _, _, hlive⟩ =>
      ⟨asked, since, hpast, hlive⟩)
  refine ⟨v.held, by rwa [Authentication.admitted, huid] at hreply, htold, fun release => ⟨?_, ?_⟩⟩
  · intro hrelease hwait
    by_contra hheld
    obtain ⟨asked, since, hpast, -, hnow⟩ := hrecent (eq_true_of_ne_false hheld)
    exact absurd hwait (Nat.not_le.2 (hnow release (hrelease asked since hpast)))
  · intro hrelease hwait
    by_contra hheld
    obtain ⟨asked, since, hpast, hle, hnow⟩ := hrecent (eq_true_of_ne_false hheld)
    have hlt := Nat.lt_of_le_of_lt hle (Nat.add_lt_add_right (hrelease asked since hpast) _)
    exact absurd hwait (Nat.not_le.2 (hnow _ hlt))

end

end Desk

namespace Release

/-- Held applicants are turned away. -/
def settings : Settings := { flags := { authenticationValidator := true } }

/-- The session of an applicant. -/
def session : SessionRecord := ⟨[(SessionKey.userId, .string "61889")]⟩

/-- An application that is under way. -/
def application : Affiliation where
  type := some { code := some "APPLICANT" }
  status := some { code := some "ACT" }

/-- The directory knows nothing of them in the first call, and has an entry of theirs as a
registered student from then on. The student record lists an application of theirs, and takes four
seconds. -/
def registering : Conduct where
  campus n := ((∅ : Campus).set .recordAffiliations ⟨"61889"⟩ (.found [application])).set
    .directory ⟨"61889"⟩
    (if n = 0 then .notFound else .found { affiliations := ["STUDENT-TYPE-REGISTERED"] })
  delay _ s := if s = .recordAffiliations then seconds 4 else 0

/-- A request of theirs after some time. -/
def visit (elapsed : Nanos) : Turn where
  elapsed := elapsed
  wallClock := ⟨⟨2016, 11, 1, by decide⟩, ⟨45000, 0, by decide⟩⟩
  errand := .enter session

/-- Nobody has come yet. -/
def desk : Desk := { site := { wallClock := (visit 0).wallClock } }

theorem vouches {n : Nat} (h : n ≠ 0) : registering.Vouches settings.timeout n ⟨"61889"⟩ := by
  obtain ⟨n, rfl⟩ := Nat.exists_eq_succ_of_ne_zero h
  exact ⟨{ affiliations := ["STUDENT-TYPE-REGISTERED"] }, rfl, by decide⟩

theorem first_tells :
    ¬registering.Vouches settings.timeout 0 ⟨"61889"⟩ ∧
      registering.ListsApplicant settings.timeout 1 ⟨"61889"⟩ (visit 0).wallClock.date := by
  rw [vouches_iff, listsApplicant_iff]
  decide +kernel

/-- They are told to be held in the first visit only, in which the directory answers at once. -/
theorem asked_of_toldIn {elapsed asked since : Nanos}
    (h : desk.ToldIn settings [.turn registering (visit 0), .turn registering (visit elapsed)]
      ⟨"61889"⟩ true asked since) : asked = 0 := by
  obtain ⟨before, u, t, later, hrun, htold, rfl, -⟩ := h
  rcases before with _ | ⟨first, _ | ⟨second, before⟩⟩
  · obtain ⟨⟨rfl, rfl⟩, -⟩ := hrun
    rfl
  · obtain ⟨rfl, hrun⟩ := List.cons.inj hrun
    obtain ⟨⟨rfl, rfl⟩, -⟩ := hrun
    exact absurd (vouches (n := 2) (by decide)) (htold.held_iff.1 rfl).1
  · simp at hrun

/-- The applicant is turned away a minute after the directory got the entry, since the answer of the
student record is not a minute old. -/
theorem turned_away_registering :
    let first := desk.through settings [.turn registering (visit 0)]
    let second := visit (seconds 59)
    (first.turnUnder registering settings second).1 =
        some (.opened { Authentication.ofSession session with userId := none }) ∧
      (∀ n ≠ 0, registering.Vouches settings.timeout n ⟨"61889"⟩) ∧
      ¬∃ asked since, desk.ToldIn settings [.turn registering (visit 0), .turn registering second]
        ⟨"61889"⟩ true asked since ∧
          (second.begin first.site).clock < asked + settings.heldTtl := by
  refine ⟨rfl, fun n hn => vouches hn, ?_⟩
  rintro ⟨asked, since, htold, hlive⟩
  obtain rfl := asked_of_toldIn htold
  exact absurd hlive (by decide)

/-- The applicant is turned away, and is let in when a minute and the time of one call have passed
since the directory got the entry. -/
theorem opened_as_told_registering :
    (desk.turnUnder registering settings (visit 0)).1 =
        some (.opened { Authentication.ofSession session with userId := none }) ∧
      ((desk.through settings [.turn registering (visit 0)]).turnUnder registering settings
        (visit (seconds 62))).1 = some (.opened (Authentication.ofSession session)) := by
  constructor
  · obtain ⟨held, hreply, htold, -⟩ := @Desk.opened_as_told settings registering ⟨"61889"⟩
      (visit 0) desk [] session rfl rfl rfl rfl rfl
    rcases htold with htold | ⟨asked, since, ⟨before, u, t, later, hnil, -⟩, -⟩
    · obtain rfl := htold.held_iff.2 first_tells
      exact hreply
    · simp at hnil
  · obtain ⟨held, hreply, -, hreleased⟩ := @Desk.opened_as_told settings registering ⟨"61889"⟩
      (visit (seconds 62)) desk [.turn registering (visit 0)] session rfl rfl rfl rfl rfl
    obtain rfl := (hreleased 1).2 (fun asked since htold => by rw [asked_of_toldIn htold]; decide)
      (by decide)
    exact hreply

end Release

end CampusView
