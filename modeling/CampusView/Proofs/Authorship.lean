import CampusView.Lobby
import CampusView.Proofs.Footprints
import CampusView.Proofs.UnderConduct

/-!
# Who changes what is kept of users

The row of a user changes when users write it who signed in as themselves, or when an administrator
deletes it. `Cleared` says that a guest of the lobby may write a row after what the guest did so
far: a request to delete has to have learned of an active superuser before.

* `Program.Silent` says that a program writes no user data, and `Program.Restrained` that it writes
  only what it is allowed to by what it did before. Both are proved along the program of one
  operation (`restrained_program`).
* All guests of a lobby stay restrained whatever happens next (`Lobby.restrained_next`), so it is
  known who changed a row (`Lobby.row?_changed_by`).
-/

namespace CampusView

open Json Time

/-! ### Rows -/

/-- An action that does not write the data of a user leaves the row of the user. -/
theorem row?_stepUnder {action : Action α} {uid : Uid} (h : action.touch ≠ .writesUser uid)
    (u : Conduct) (w : Site) :
    (action.stepUnder u w).2.store.row? uid = w.store.row? uid := by
  have hne : ∀ v, action.touch = .writesUser v → uid ≠ v := fun v hv heq => h (heq ▸ hv)
  cases action with
  | setName v name => exact if_neg (hne v rfl)
  | recordLogin v at_ => exact if_neg (hne v rfl)
  | deleteUser v => exact if_neg (hne v rfl)
  | readClock =>
    obtain ⟨t, ht⟩ := step_readClock w
    show (Action.readClock.step w).2.store.row? uid = _
    rw [ht]
  | _ => rfl

/-! ### Programs that are restrained in what they write -/

/-- The touch is no write of user data. -/
def Touch.LeavesUsers (t : Touch) : Prop := ∀ uid, t ≠ .writesUser uid

namespace Program

/-- No action of the program writes user data, and `Q` holds of what it ends in. -/
def Silent (Q : α → Prop) : Program α → Prop
  | done a => Q a
  | act action next => (∀ uid, action.touch ≠ .writesUser uid) ∧ ∀ b, (next b).Silent Q

/-- Whenever the rest of a program writes the data of a user, `E` allows it by what was done before,
and `Q` holds when it ends. Others may make actions in between. -/
def Restrained (u : Conduct) (E : List Deed → Uid → Prop) (Q : List Deed → α → Prop) :
    Program α → List Deed → Prop
  | done a, past => Q past a
  | act action next, past => (∀ uid, action.touch = .writesUser uid → E past uid) ∧
      ∀ w, (next (action.stepUnder u w).1).Restrained u E Q (past ++ [⟨action, w⟩])

section

variable {Q : α → Prop} {R : β → Prop}

theorem Silent.bind {p : Program α} {f : α → Program β} (h : p.Silent Q)
    (hf : ∀ a, Q a → (f a).Silent R) : (p >>= f).Silent R := by
  induction p with
  | done a => exact hf a h
  | act action next ih => exact ⟨h.1, fun b => ih b (h.2 b)⟩

/-- A program that writes no user data is silent. -/
theorem Confined.silent {p : Program α} (h : p.Confined Touch.LeavesUsers Q) : p.Silent Q := by
  induction p with
  | done a => exact h
  | act action next ih =>
    exact ⟨fun uid => Touch.ne_of_not h.1 rfl fun h => h uid rfl, fun b => ih b (h.2 b)⟩

/-- A silent program leaves the store. -/
theorem Silent.store {p : Program α} (h : p.Silent Q) (u : Conduct) (w : Site) :
    (p.runUnder u w).2.store = w.store := by
  induction p generalizing w with
  | done a => rfl
  | act action next ih =>
    rw [runUnder, ih _ (h.2 _)]
    exact Store.ext fun uid => row?_stepUnder (h.1 uid) u w

/-- A silent program is restrained by anything, and adds to what was done. -/
theorem Silent.restrained {p : Program α} (h : p.Silent Q) (u : Conduct)
    (E : List Deed → Uid → Prop) (past : List Deed) :
    p.Restrained u E (fun past' a => (∃ more, past' = past ++ more) ∧ Q a) past := by
  suffices hgrown : ∀ more, p.Restrained u E
      (fun past' a => (∃ more, past' = past ++ more) ∧ Q a) (past ++ more) by
    simpa using hgrown []
  induction p with
  | done a => exact fun more => ⟨⟨more, rfl⟩, h⟩
  | act action next ih =>
    intro more
    refine ⟨fun uid huid => absurd huid (h.1 uid), fun w => ?_⟩
    rw [List.append_assoc]
    exact ih _ (h.2 _) _

end

section

variable {u : Conduct} {E : List Deed → Uid → Prop} {Q : List Deed → α → Prop}
  {R : List Deed → β → Prop} {past : List Deed}

theorem Restrained.mono {p : Program α} {R : List Deed → α → Prop}
    (h : p.Restrained u E Q past) (hQ : ∀ past a, Q past a → R past a) :
    p.Restrained u E R past := by
  induction p generalizing past with
  | done a => exact hQ past a h
  | act action next ih => exact ⟨h.1, fun w => ih _ (h.2 w)⟩

theorem Restrained.mono_allowed {p : Program α} {E' : List Deed → Uid → Prop}
    (h : p.Restrained u E Q past) (hE : ∀ past uid, E past uid → E' past uid) :
    p.Restrained u E' Q past := by
  induction p generalizing past with
  | done a => exact h
  | act action next ih => exact ⟨fun uid huid => hE past uid (h.1 uid huid), fun w => ih _ (h.2 w)⟩

theorem Restrained.bind {p : Program α} {f : α → Program β} (h : p.Restrained u E Q past)
    (hf : ∀ past a, Q past a → (f a).Restrained u E R past) :
    (p >>= f).Restrained u E R past := by
  induction p generalizing past with
  | done a => exact hf past a h
  | act action next ih => exact ⟨h.1, fun w => ih _ (h.2 w)⟩

end

end Program

/-! ### What only reads -/

section

open Program

variable (settings : Settings) (ctx : Context)

theorem silent_readClock : (perform .readClock).Silent fun _ => True :=
  confined_readClock.silent

theorem silent_invalidate (root : String) : (perform (.invalidate root)).Silent fun _ => True :=
  Confined.silent (confined_invalidate nofun)

/-- A request is opened without writing. -/
theorem silent_authenticate (session : SessionRecord) :
    (authenticate settings session).Silent fun ctx => ctx.auth.Of session :=
  Confined.silent (confined_authenticate settings (fun _ => nofun) session)

theorem silent_statusFeed : (statusFeed settings ctx).Silent fun r => r.2.auth = ctx.auth :=
  Confined.silent (confined_statusFeed settings ctx fun _ _ => ⟨nofun, nofun⟩)

theorem silent_academicsFeed : (academicsFeed settings ctx).Silent fun r => r.2.auth = ctx.auth :=
  Confined.silent (confined_academicsFeed settings ctx fun _ => nofun)

theorem silent_delegateStudents (auth : Authentication) :
    (delegateStudents settings auth).Silent fun _ => True :=
  Confined.silent (confined_delegateStudents settings auth)

theorem silent_afterWrite (uid : Uid) (written : Except StoreFault UserData) :
    (afterWrite uid written).Silent fun _ => True :=
  Confined.silent (confined_afterWrite nofun written)

end

/-! ### Who may write -/

/-- The operation only reads. -/
def Operation.isRead : Operation → Bool
  | statusFeed | academicsFeed | delegateStudents => true
  | setPreferredName _ | recordFirstLogin | deleteUser _ => false

/-- Nobody is signed in, or it is forbidden. -/
def ServiceError.isRefusal : ServiceError → Bool
  | unauthenticated | forbidden _ => true
  | store _ => false

/-- The request was refused. -/
def Reply.isRefused : Reply → Bool
  | statusFeed (.error e) | academicsFeed (.error e) | delegateStudents (.error e)
  | userData (.error e) | deleted (.error e) => e.isRefusal
  | _ => false

/-- The user signed in as themselves, and was let in. -/
structure Owns (session : SessionRecord) (auth : Authentication) (uid : Uid) : Prop where
  user : session.id? SessionKey.userId = some uid
  letIn : auth.userId = some uid
  notLti : session.flag SessionKey.ltiOnly = false
  alone : ∀ key ∈ [SessionKey.viewer, SessionKey.advisorViewer, SessionKey.delegateViewer],
    ∀ v, session.id? key = some v → v = uid

/-- Somebody is signed in, and the first thing that was done was to ask for the authority of the
user whose authority governs the request, and to learn of an active superuser. -/
def Administers (settings : Settings) (u : Conduct) (auth : Authentication) (past : List Deed) :
    Prop :=
  auth.userId.isSome = true ∧ ∃ v a w, auth.authority? = some (.user v) ∧
    past.head? = some ⟨.inquire settings.timeout (Inquiry.ask .userAuth v), w⟩ ∧
    u.answers settings.timeout w.calls.length .userAuth v = .found a ∧
    a.active = true ∧ a.isSuperuser = true

theorem Administers.append {settings : Settings} {u : Conduct} {auth : Authentication}
    {past : List Deed} (h : Administers settings u auth past) (more : List Deed) :
    Administers settings u auth (past ++ more) := by
  obtain ⟨huser, v, a, w, hauthority, hhead, hrest⟩ := h
  refine ⟨huser, v, a, w, hauthority, ?_, hrest⟩
  rw [List.head?_append, hhead]
  rfl

/-- After what was done, the operation may write the data of a user. -/
inductive Cleared (settings : Settings) (u : Conduct) (session : SessionRecord)
    (auth : Authentication) : Operation → List Deed → Uid → Prop
  | setPreferredName {value past uid} (h : Owns session auth uid) :
    Cleared settings u session auth (.setPreferredName value) past uid
  | recordFirstLogin {past uid} (h : Owns session auth uid) :
    Cleared settings u session auth .recordFirstLogin past uid
  | deleteUser {past uid} (h : Administers settings u auth past) :
    Cleared settings u session auth (.deleteUser uid) past uid

section

variable {settings : Settings} {u : Conduct} {session : SessionRecord} {auth : Authentication}
  {operation : Operation} {past : List Deed} {uid : Uid}

/-- What may be written may still be written later. -/
theorem Cleared.append (h : Cleared settings u session auth operation past uid)
    (more : List Deed) : Cleared settings u session auth operation (past ++ more) uid := by
  cases h with
  | setPreferredName h => exact .setPreferredName h
  | recordFirstLogin h => exact .recordFirstLogin h
  | deleteUser h => exact .deleteUser (h.append more)

theorem isRefusal_of_subject {e : ServiceError} (h : subject auth = .error e) :
    e.isRefusal = true := by
  obtain ⟨-, rfl⟩ := subject_eq_error_iff.1 h
  rfl

theorem isRefusal_of_writer {e : ServiceError} (h : writer auth = .error e) :
    e.isRefusal = true := by
  rcases writer_eq_error h with rfl | rfl
  · rfl
  · rfl

/-- Only users who signed in as themselves write their data. -/
theorem owns_of_writer (hauth : auth.Of session) (h : writer auth = .ok uid) :
    Owns session auth uid := by
  obtain ⟨huid, hdirect⟩ := writer_eq_ok_iff.1 h
  -- a user who turned out to be held is not signed in
  rcases hauth with rfl | rfl
  · rw [Authentication.isDirect, huid] at hdirect
    obtain ⟨hlti, hviewers⟩ := Bool.and_eq_true_iff.1 hdirect
    refine ⟨huid, huid, by simpa [Authentication.ofSession] using hlti, ?_⟩
    intro key hkey v hv
    have hmem : v ∈ (Authentication.ofSession session).viewers := by
      rw [Authentication.viewers, List.mem_filterMap]
      simp only [List.mem_cons, List.not_mem_nil, or_false] at hkey
      rcases hkey with rfl | rfl | rfl
      · exact ⟨some v, by simp [Authentication.ofSession, hv], rfl⟩
      · exact ⟨some v, by simp [Authentication.ofSession, hv], rfl⟩
      · exact ⟨some v, by simp [Authentication.ofSession, hv], rfl⟩
    exact eq_of_beq (List.all_eq_true.1 hviewers v hmem)
  · cases huid

/-- Only an active superuser administrates. -/
theorem ask_of_canAdministrate {met : Nat → Campus}
    (h : ((askAuthority auth).outcome met).found?.any UserAuth.canAdministrate = true) :
    ∃ v a, auth.authority? = some (.user v) ∧ askAuthority auth = Inquiry.ask .userAuth v ∧
      met 0 .userAuth v = .found a ∧ a.active = true ∧ a.isSuperuser = true := by
  unfold askAuthority at h ⊢
  split at h
  · rename_i v hauthority
    rw [Inquiry.outcome_ask] at h
    cases hanswer : met 0 .userAuth v with
    | found a =>
      rw [hanswer] at h
      obtain ⟨hactive, hsuperuser⟩ := Bool.and_eq_true_iff.1 h
      exact ⟨v, a, hauthority, rfl, hanswer, hactive, hsuperuser⟩
    | notFound =>
      rw [hanswer] at h
      cases h
    | errored details =>
      rw [hanswer] at h
      cases h
  · cases h

end

/-! ### Operations -/

/-- What holds when an operation ends: somebody was cleared to write, or it only reads, or it was
refused. The request stays of the same session. -/
structure Ended (settings : Settings) (u : Conduct) (session : SessionRecord)
    (auth : Authentication) (operation : Operation) (past : List Deed) (r : Reply × Context) :
    Prop where
  same : r.2.auth = auth
  answer : (∃ uid, Cleared settings u session auth operation past uid) ∨
    operation.isRead = true ∨ r.1.isRefused = true

section

variable {settings : Settings} (u : Conduct) {session : SessionRecord} {ctx : Context}
  {operation : Operation}

/-- A reading operation ends without writing. -/
theorem restrained_of_isRead (h : operation.isRead = true) (past : List Deed) :
    (operation.program settings ctx).Restrained u
      (Cleared settings u session ctx.auth operation)
      (Ended settings u session ctx.auth operation) past := by
  have hsilent : (operation.program settings ctx).Silent fun r => r.2.auth = ctx.auth := by
    cases operation with
    | statusFeed => exact (silent_statusFeed settings ctx).bind fun _ hr => hr
    | academicsFeed => exact (silent_academicsFeed settings ctx).bind fun _ hr => hr
    | delegateStudents => exact (silent_delegateStudents settings ctx.auth).bind fun _ _ => rfl
    | _ => cases h
  refine (hsilent.restrained u _ past).mono ?_
  rintro past r ⟨-, hr⟩
  exact ⟨hr, .inr (.inl h)⟩

/-- Somebody was cleared to write, or the answer is a refusal. -/
def Justified (settings : Settings) (u : Conduct) (session : SessionRecord)
    (auth : Authentication) (operation : Operation) (past : List Deed)
    (answer : Except ServiceError α) : Prop :=
  (∃ uid, Cleared settings u session auth operation past uid) ∨
    ∃ e, answer = .error e ∧ e.isRefusal = true

theorem Justified.ended {past : List Deed} {answer : Except ServiceError α}
    {reply : Except ServiceError α → Reply}
    (h : Justified settings u session ctx.auth operation past answer)
    (hreply : ∀ e, (reply (.error e)).isRefused = e.isRefusal) :
    Ended settings u session ctx.auth operation past (reply answer, ctx) := by
  refine ⟨rfl, ?_⟩
  rcases h with hcleared | ⟨e, rfl, he⟩
  · exact .inl hcleared
  · exact .inr (.inr ((hreply e).trans he))

/-- A write of the data of a user who may write it. -/
theorem restrained_write {action : Action (Except StoreFault UserData)} {uid : Uid}
    (htouch : action.touch = .writesUser uid)
    (hcleared : ∀ past, Cleared settings u session ctx.auth operation past uid)
    (past : List Deed) :
    (Program.perform action >>= afterWrite uid).Restrained u
      (Cleared settings u session ctx.auth operation)
      (Justified settings u session ctx.auth operation) past := by
  refine ⟨?_, fun w => ?_⟩
  · intro v hv
    obtain rfl := Touch.writesUser.inj (htouch.symm.trans hv)
    exact hcleared past
  · refine ((silent_afterWrite uid _).restrained u _ _).mono ?_
    intro past answer _
    exact .inl ⟨uid, hcleared past⟩

theorem restrained_setPreferredName (hauth : ctx.auth.Of session) (value : String) :
    (setPreferredName ctx.auth value).Restrained u
      (Cleared settings u session ctx.auth (.setPreferredName value))
      (Justified settings u session ctx.auth (.setPreferredName value)) [] := by
  unfold setPreferredName
  cases hwriter : writer ctx.auth with
  | error e => exact .inr ⟨e, rfl, isRefusal_of_writer hwriter⟩
  | ok uid =>
    exact restrained_write u rfl (fun _ => .setPreferredName (owns_of_writer hauth hwriter)) []

theorem restrained_recordFirstLogin (hauth : ctx.auth.Of session) :
    (recordFirstLogin ctx.auth).Restrained u
      (Cleared settings u session ctx.auth .recordFirstLogin)
      (Justified settings u session ctx.auth .recordFirstLogin) [] := by
  unfold recordFirstLogin
  cases hwriter : writer ctx.auth with
  | error e => exact .inr ⟨e, rfl, isRefusal_of_writer hwriter⟩
  | ok uid =>
    refine (silent_readClock.restrained u _ []).bind ?_
    intro past now _
    exact restrained_write u rfl (fun _ => .recordFirstLogin (owns_of_writer hauth hwriter)) past

/-- Who may administrate is known from what was asked for first. -/
theorem restrained_askAuthority {E : List Deed → Uid → Prop} {auth : Authentication}
    (huser : auth.userId.isSome = true) :
    (Program.perform (.inquire settings.timeout (askAuthority auth))).Restrained u E
      (fun past actor => actor.found?.any UserAuth.canAdministrate = true →
        Administers settings u auth past) [] := by
  refine ⟨by rintro _ ⟨⟩, fun w hcan => ?_⟩
  obtain ⟨v, a, hauthority, hask, hfound, hrights⟩ := ask_of_canAdministrate hcan
  refine ⟨huser, v, a, w, hauthority, ?_, hfound, hrights⟩
  rw [hask]
  rfl

theorem restrained_deleteUser (target : Uid) :
    (deleteUser settings ctx.auth target).Restrained u
      (Cleared settings u session ctx.auth (.deleteUser target))
      (Justified settings u session ctx.auth (.deleteUser target)) [] := by
  unfold deleteUser
  cases hsubject : subject ctx.auth with
  | error e => exact .inr ⟨e, rfl, isRefusal_of_subject hsubject⟩
  | ok user =>
    have huser : ctx.auth.userId.isSome = true := by rw [subject_eq_ok_iff.1 hsubject]; rfl
    refine (restrained_askAuthority u huser).bind ?_
    intro past actor hactor
    by_cases hcan : actor.found?.any UserAuth.canAdministrate = true
    · rw [if_pos hcan]
      refine ⟨?_, fun w => ?_⟩
      · intro v hv
        obtain rfl := Touch.writesUser.inj hv
        exact .deleteUser (hactor hcan)
      · have hforget := (silent_invalidate (Cache.Key.user target)).bind fun _ _ =>
          (silent_invalidate (Cache.Key.stamps target)).bind fun _ _ =>
            show (pure (.ok ((Action.deleteUser target).stepUnder u w).1) :
              Program (Except ServiceError Bool)).Silent fun _ => True from trivial
        refine (hforget.restrained u _ _).mono ?_
        rintro _ answer ⟨⟨more, rfl⟩, -⟩
        exact .inl ⟨target, .deleteUser (((hactor hcan).append _).append more)⟩
    · rw [if_neg hcan]
      exact .inr ⟨_, rfl, rfl⟩

/-- What is written is written by whom it is allowed, whatever the operation. -/
theorem restrained_program (hauth : ctx.auth.Of session) (operation : Operation) :
    (operation.program settings ctx).Restrained u
      (Cleared settings u session ctx.auth operation)
      (Ended settings u session ctx.auth operation) [] := by
  cases operation with
  | statusFeed => exact restrained_of_isRead u rfl []
  | academicsFeed => exact restrained_of_isRead u rfl []
  | delegateStudents => exact restrained_of_isRead u rfl []
  | setPreferredName value =>
    exact (restrained_setPreferredName u hauth value).bind fun _ _ h => h.ended u fun _ => rfl
  | recordFirstLogin =>
    exact (restrained_recordFirstLogin u hauth).bind fun _ _ h => h.ended u fun _ => rfl
  | deleteUser target =>
    exact (restrained_deleteUser u target).bind fun _ _ h => h.ended u fun _ => rfl

end

/-! ### Everybody in the lobby -/

/-- What the guest is at is restrained, and what was written was allowed. -/
def Guest.Restrained (settings : Settings) (u : Conduct) (g : Guest) : Prop :=
  match g.stage with
  | .opening past rest =>
    rest.Restrained u (fun _ _ => False) (fun _ ctx => ctx.auth.Of g.session) past
  | .doing ctx operation past rest => ctx.auth.Of g.session ∧
    (∀ d ∈ past, ∀ uid, d.action.touch = .writesUser uid →
      Cleared settings u g.session ctx.auth operation past uid) ∧
    rest.Restrained u (Cleared settings u g.session ctx.auth operation)
      (Ended settings u g.session ctx.auth operation) past

namespace Guest

variable {settings : Settings} {u : Conduct} {g : Guest}

theorem restrained_opening (settings : Settings) (u : Conduct) (session : SessionRecord) :
    Guest.Restrained settings u ⟨session, .opening [] (authenticate settings session)⟩ := by
  refine ((silent_authenticate settings session).restrained u _ []).mono ?_
  rintro _ ctx ⟨-, hauth⟩
  exact hauth

/-- A guest who begins an operation does so within a request of their own session. -/
theorem Restrained.begin (h : g.Restrained settings u) {ctx : Context}
    (hctx : g.stage.context? = some ctx) (operation : Operation) :
    Guest.Restrained settings u
      { g with stage := .doing ctx operation [] (operation.program settings ctx) } := by
  have hauth : ctx.auth.Of g.session := by
    obtain ⟨session, stage⟩ := g
    cases stage with
    | opening past rest =>
      cases rest with
      | done ctx' =>
        obtain rfl := Option.some.inj hctx
        exact h
      | act action next => cases hctx
    | doing ctx' operation' past rest =>
      cases rest with
      | done r =>
        obtain rfl := Option.some.inj hctx
        obtain ⟨hauth, -, hended⟩ := h
        exact hended.same ▸ hauth
      | act action next => cases hctx
  refine ⟨hauth, ?_, restrained_program u hauth operation⟩
  rintro d ⟨⟩

/-- A guest stays restrained by making the next action. -/
theorem Restrained.step (h : g.Restrained settings u) (w : Site) :
    Guest.Restrained settings u { g with stage := (g.stage.step u w).1 } := by
  obtain ⟨session, stage⟩ := g
  cases stage with
  | opening past rest =>
    cases rest with
    | done ctx => exact h
    | act action next => exact h.2 w
  | doing ctx operation past rest =>
    cases rest with
    | done r => exact h
    | act action next =>
      obtain ⟨hauth, hpast, hallowed, hnext⟩ := h
      refine ⟨hauth, ?_, hnext w⟩
      intro d hd uid hwrites
      rcases List.mem_append.1 hd with hd | hd
      · exact (hpast d hd uid hwrites).append _
      · obtain rfl := List.mem_singleton.1 hd
        exact (hallowed uid hwrites).append _

end Guest

namespace Lobby

variable {settings : Settings} {u : Conduct} {lobby : Lobby}

/-- Whatever happens next, all guests stay restrained. -/
theorem restrained_next (h : ∀ g ∈ lobby.guests, g.Restrained settings u) (event : Event) :
    ∀ g ∈ (lobby.next settings u event).guests, g.Restrained settings u := by
  cases event with
  | arrive session =>
    intro g hg
    rcases List.mem_append.1 hg with hg | hg
    · exact h g hg
    · obtain rfl := List.mem_singleton.1 hg
      exact Guest.restrained_opening settings u session
  | begin guest operation =>
    simp only [next]
    cases hguest : lobby.guests[guest]? with
    | none => exact h
    | some g =>
      have hg := h g (List.mem_of_getElem? hguest)
      cases hctx : g.stage.context? with
      | none => simpa only [hctx] using h
      | some ctx =>
        intro g' hg'
        simp only [hctx] at hg'
        rcases List.mem_or_eq_of_mem_set hg' with hg' | rfl
        · exact h g' hg'
        · exact hg.begin hctx operation
  | step guest =>
    simp only [next]
    cases hguest : lobby.guests[guest]? with
    | none => exact h
    | some g =>
      intro g' hg'
      rcases List.mem_or_eq_of_mem_set hg' with hg' | rfl
      · exact h g' hg'
      · exact (h g (List.mem_of_getElem? hguest)).step lobby.site
  | wait elapsed wallClock => exact h

/-- All guests are restrained at any time. -/
theorem restrained_run (h : ∀ g ∈ lobby.guests, g.Restrained settings u) (events : List Event) :
    ∀ g ∈ (lobby.run settings u events).guests, g.Restrained settings u := by
  induction events generalizing lobby with
  | nil => exact h
  | cons event events ih => exact ih (restrained_next h event)

/-- To begin an operation changes nothing at the site. -/
theorem site_begin (settings : Settings) (u : Conduct) (lobby : Lobby) (guest : Nat)
    (operation : Operation) :
    (lobby.next settings u (.begin guest operation)).site = lobby.site := by
  simp only [next]
  cases lobby.guests[guest]? with
  | none => rfl
  | some g =>
    cases hctx : g.stage.context? with
    | none => simp only [hctx]
    | some ctx => simp only [hctx]

/-- A guest changes the row of a user only by an operation that is allowed to. -/
theorem cleared_of_step {g : Guest} (h : g.Restrained settings u) {w : Site} {uid : Uid}
    (hrow : (g.stage.step u w).2.store.row? uid ≠ w.store.row? uid) :
    ∃ ctx operation past rest, g.stage = .doing ctx operation past rest ∧
      ctx.auth.Of g.session ∧ Cleared settings u g.session ctx.auth operation past uid := by
  obtain ⟨session, stage⟩ := g
  cases stage with
  | opening past rest =>
    cases rest with
    | done ctx => exact absurd rfl hrow
    | act action next => exact absurd (row?_stepUnder (fun hwrites => h.1 uid hwrites) u w) hrow
  | doing ctx operation past rest =>
    cases rest with
    | done r => exact absurd rfl hrow
    | act action next =>
      obtain ⟨hauth, -, hallowed, -⟩ := h
      by_cases hwrites : action.touch = .writesUser uid
      · exact ⟨ctx, operation, past, _, rfl, hauth, hallowed uid hwrites⟩
      · exact absurd (row?_stepUnder hwrites u w) hrow

/-- **Only those who may change what is kept of a user.** However the campus systems behave, and in
whatever order everybody's actions come: if the row of a user changes, somebody did it who was
cleared to (`Cleared`), so the users themselves, or an active superuser who deletes the row. An
operation that nobody was cleared for only reads or is refused, and leaves every row. -/
theorem row?_changed_by (settings : Settings) (u : Conduct) (w : Site) (events : List Event)
    (event : Event) (uid : Uid) :
    let lobby := Lobby.run settings u { site := w } events
    ((lobby.next settings u event).site.store.row? uid ≠ lobby.site.store.row? uid →
      ∃ i g ctx operation past rest, event = .step i ∧ lobby.guests[i]? = some g ∧
        g.stage = .doing ctx operation past rest ∧ ctx.auth.Of g.session ∧
        Cleared settings u g.session ctx.auth operation past uid) ∧
      ∀ g ∈ lobby.guests, ∀ ctx operation past reply ctx',
        g.stage = .doing ctx operation past (.done (reply, ctx')) →
        (∀ v, ¬Cleared settings u g.session ctx.auth operation past v) →
        (operation.isRead = true ∨ reply.isRefused = true) ∧
          ∀ d ∈ past, ∀ v, (d.action.stepUnder u d.site).2.store.row? v = d.site.store.row? v := by
  intro lobby
  have hguests : ∀ g ∈ lobby.guests, g.Restrained settings u :=
    restrained_run (by rintro _ ⟨⟩) events
  constructor
  · intro hrow
    cases event with
    | arrive session => exact absurd rfl hrow
    | wait elapsed wallClock => exact absurd rfl hrow
    | begin guest operation =>
      rw [site_begin] at hrow
      exact absurd rfl hrow
    | step guest =>
      cases hguest : lobby.guests[guest]? with
      | none =>
        simp only [next, hguest] at hrow
        exact absurd rfl hrow
      | some g =>
        simp only [next, hguest] at hrow
        obtain ⟨ctx, operation, past, rest, hstage, hauth, hcleared⟩ :=
          cleared_of_step (hguests g (List.mem_of_getElem? hguest)) hrow
        exact ⟨guest, g, ctx, operation, past, rest, rfl, hguest, hstage, hauth, hcleared⟩
  · intro g hg ctx operation past reply ctx' hstage hnot
    have hrestrained := hguests g hg
    rw [Guest.Restrained, hstage] at hrestrained
    obtain ⟨-, hpast, hended⟩ := hrestrained
    constructor
    · rcases hended.answer with ⟨v, hcleared⟩ | hanswer
      · exact absurd hcleared (hnot v)
      · exact hanswer
    · intro d hd v
      apply row?_stepUnder
      intro hwrites
      exact hnot v (hpast d hd v hwrites)

/-- An administrator came, began to delete what is kept of a user, and asked for the authority. -/
def deleting : Conduct × Lobby :=
  let campus := (∅ : Campus).set .userAuth ⟨"2040"⟩ (.found { isSuperuser := true, active := true })
  let u := Conduct.steady campus fun _ => 0
  let w := { Site.prompt campus with store := (∅ : Store).put ⟨"61889"⟩ (some {}) }
  (u, run {} u { site := w }
    [.arrive ⟨[(SessionKey.userId, .string "2040")]⟩, .begin 0 (.deleteUser ⟨"61889"⟩), .step 0])

/-- Now the administrator deletes the row, and is cleared to. -/
theorem row?_changed_by_administrator :
    (deleting.2.next {} deleting.1 (.step 0)).site.store.row? ⟨"61889"⟩ ≠
        deleting.2.site.store.row? ⟨"61889"⟩ ∧
      ∃ i g ctx operation past rest, Event.step 0 = .step i ∧ deleting.2.guests[i]? = some g ∧
        g.stage = .doing ctx operation past rest ∧ ctx.auth.Of g.session ∧
        Cleared {} deleting.1 g.session ctx.auth operation past ⟨"61889"⟩ := by
  have hrow : (deleting.2.next {} deleting.1 (.step 0)).site.store.row? ⟨"61889"⟩ ≠
      deleting.2.site.store.row? ⟨"61889"⟩ := by decide
  exact ⟨hrow, (row?_changed_by {} deleting.1 _ _ (.step 0) ⟨"61889"⟩).1 hrow⟩

end Lobby

end CampusView
