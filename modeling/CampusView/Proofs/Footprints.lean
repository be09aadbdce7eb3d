import CampusView.Pool

/-!
# What programs change

`Program.Confined` says that all that a program changes, in the cache or in the store, is of some
kind, and what it ends in. What each request may change is said here once, piece by piece of its
program. That it leaves user data alone, or some entry of the cache, is then a matter of the kind.
-/

namespace CampusView

open Json Time

/-- The touch changes something. -/
def Touch.isChange : Touch → Bool
  | writesCache _ | invalidates _ | writesUser _ => true
  | readsCache _ | readsUser _ | inquires | readsClock => false

/-- What changes only something of a kind does not touch what is not of that kind. -/
theorem Touch.ne_of_not {T : Touch → Prop} {t t' : Touch} (h : t.isChange = true → T t)
    (hchange : t'.isChange = true) (hT : ¬T t') : t ≠ t' := fun heq =>
  hT (heq ▸ h (heq ▸ hchange))

namespace Program

/-- All that the program changes is among `T`, and `Q` holds of what it ends in. -/
def Confined (T : Touch → Prop) (Q : α → Prop) : Program α → Prop
  | done a => Q a
  | act action next =>
    (action.touch.isChange = true → T action.touch) ∧ ∀ b, (next b).Confined T Q

section

variable {T : Touch → Prop} {Q : α → Prop} {R : β → Prop}

theorem Confined.bind {p : Program α} {f : α → Program β} (h : p.Confined T Q)
    (hf : ∀ a, Q a → (f a).Confined T R) : (p >>= f).Confined T R := by
  induction p with
  | done a => exact hf a h
  | act action next ih => exact ⟨h.1, fun b => ih b (h.2 b)⟩

end

end Program

section

open Program

variable {T : Touch → Prop}

theorem confined_perform {action : Action α} (h : action.touch.isChange = true → T action.touch) :
    (perform action).Confined T fun _ => True := ⟨h, fun _ => trivial⟩

theorem confined_inquire (limit : Nanos) (q : Inquiry α) :
    (perform (.inquire limit q)).Confined T fun _ => True := confined_perform nofun

theorem confined_readClock : (perform .readClock).Confined T fun _ => True :=
  confined_perform nofun

theorem confined_writeCache {key : String} (h : T (.writesCache key)) (text : String)
    (ttl : Nanos) : (perform (.writeCache key text ttl)).Confined T fun _ => True :=
  confined_perform fun _ => h

theorem confined_invalidate {root : String} (h : T (.invalidates root)) :
    (perform (.invalidate root)).Confined T fun _ => True := confined_perform fun _ => h

/-! ### The cache -/

theorem confined_cached (α : Type) [Decode α] (key : String) :
    (cached (α := α) key).Confined T fun _ => True := ⟨nofun, fun _ => trivial⟩

theorem confined_cachedOr [Encode α] [Decode α] {key : String} (h : T (.writesCache key))
    {compute : Program (Except ε (α × Nanos))} (hcompute : compute.Confined T fun _ => True) :
    (cachedOr key compute).Confined T fun _ => True := by
  refine (confined_cached α key).bind fun last _ => ?_
  cases last with
  | some value => trivial
  | none =>
    refine hcompute.bind fun computed _ => ?_
    cases computed with
    | error e => trivial
    | ok r => exact (confined_writeCache h _ _).bind fun _ _ => trivial

theorem confined_stamp {key : String} (h : T (.writesCache key)) (hash : String) :
    (stamp key hash).Confined T fun _ => True := by
  refine (confined_cached LastModified key).bind fun last _ => ?_
  cases last.filter fun m => m.hash == hash with
  | some m => trivial
  | none =>
    refine confined_readClock.bind fun now _ => ?_
    exact (confined_writeCache h _ _).bind fun _ _ => trivial

end

/-! ### To open a request -/

/-- The request is of this session. Nobody is signed in if the user turned out to be held. -/
def Authentication.Of (auth : Authentication) (session : SessionRecord) : Prop :=
  auth = .ofSession session ∨ auth = { Authentication.ofSession session with userId := none }

section

open Program

variable {T : Touch → Prop} (settings : Settings)

theorem confined_isHeld {uid : Uid} (h : T (.writesCache (Cache.Key.admission uid))) :
    (isHeld settings uid).Confined T fun _ => True := by
  have hfind : (findHeld settings uid).Confined T fun _ => True := by
    refine (confined_inquire _ _).bind fun directory _ => ?_
    split
    · trivial
    · refine (confined_inquire _ _).bind fun affiliations _ => ?_
      exact confined_readClock.bind fun now _ => trivial
  refine (confined_perform nofun).bind fun entry _ => ?_
  cases entry with
  | some entry => trivial
  | none =>
    refine hfind.bind fun held _ => ?_
    cases held with
    | false => exact (confined_writeCache h _ _).bind fun _ _ => trivial
    | true => exact (confined_writeCache h _ _).bind fun _ _ => trivial

/-- Somebody is let in as themselves or not at all. -/
theorem confined_letIn {uid : Uid} (h : T (.writesCache (Cache.Key.admission uid))) :
    (letIn settings uid).Confined T fun user => user = none ∨ user = some uid := by
  unfold letIn
  split
  · refine (confined_isHeld settings h).bind fun held _ => ?_
    cases held with
    | false => exact .inr rfl
    | true => exact .inl rfl
  · exact .inr rfl

/-- To open a request keeps at most whether somebody who signed in as themselves is held. -/
theorem confined_authenticate_of_direct {session : SessionRecord}
    (h : ∀ uid, (Authentication.ofSession session).userId = some uid →
      (Authentication.ofSession session).isDirect = true →
        T (.writesCache (Cache.Key.admission uid))) :
    (authenticate settings session).Confined T fun ctx => ctx.auth.Of session := by
  unfold authenticate
  dsimp only
  cases huid : (Authentication.ofSession session).userId with
  | none => exact .inl rfl
  | some uid =>
    simp only
    split
    · next hdirect =>
      refine (confined_letIn settings (h uid huid hdirect)).bind fun user huser => ?_
      rcases huser with rfl | rfl
      · exact .inr rfl
      · left
        show { Authentication.ofSession session with userId := some uid } = _
        rw [← huid]
    · exact .inl rfl

/-- To open a request keeps at most whether its user is held. -/
theorem confined_authenticate (h : ∀ uid, T (.writesCache (Cache.Key.admission uid)))
    (session : SessionRecord) :
    (authenticate settings session).Confined T fun ctx => ctx.auth.Of session :=
  confined_authenticate_of_direct settings fun uid _ _ => h uid

end

/-! ### Operations -/

section

open Program

variable {T : Touch → Prop} (settings : Settings) (ctx : Context)

theorem confined_currentFeed {uid : Uid}
    (h : T (.writesCache (Cache.Key.status uid (viewKey ctx.auth)))) :
    (currentFeed settings ctx uid).Confined T fun r => r.2.auth = ctx.auth := by
  refine (confined_cached UserFeed _).bind fun feed _ => ?_
  cases feed with
  | some feed => rfl
  | none =>
    have hcompose : (composeFeed settings ctx uid).Confined T fun _ => True :=
      (confined_perform nofun).bind fun data _ => (confined_inquire _ _).bind fun answers _ =>
        trivial
    refine hcompose.bind fun c _ => ?_
    exact (confined_writeCache h _ _).bind fun _ _ => rfl

/-- A request for the status feed keeps the feed and its stamp. -/
theorem confined_statusFeed (h : ∀ uid, ctx.auth.userId = some uid →
    T (.writesCache (Cache.Key.status uid (viewKey ctx.auth))) ∧
      T (.writesCache (Cache.Key.stamp uid (viewKey ctx.auth)))) :
    (statusFeed settings ctx).Confined T fun r => r.2.auth = ctx.auth := by
  unfold statusFeed
  cases hsubject : subject ctx.auth with
  | error e => rfl
  | ok uid =>
    obtain ⟨hstatus, hstamp⟩ := h uid (subject_eq_ok_iff.1 hsubject)
    refine (confined_currentFeed settings ctx hstatus).bind fun r hr => ?_
    rw [← hr] at hstamp
    exact (confined_stamp hstamp _).bind fun last _ => hr

/-- A request for the academics page keeps the page. -/
theorem confined_academicsFeed (h : ∀ uid, T (.writesCache (Cache.Key.academics uid))) :
    (academicsFeed settings ctx).Confined T fun r => r.2.auth = ctx.auth := by
  unfold academicsFeed
  cases subject ctx.auth with
  | error e => rfl
  | ok uid =>
    refine (confined_inquire _ _).bind fun resolution _ => ?_
    dsimp only
    split
    · have hask : (askAcademics settings uid).Confined T fun _ => True := by
        refine (confined_inquire _ _).bind fun answer _ => ?_
        cases answer <;> trivial
      refine (confined_cachedOr (h uid) hask).bind fun feed _ => ?_
      split <;> rfl
    · rfl

/-- To list the students of a delegate changes nothing. -/
theorem confined_delegateStudents (auth : Authentication) :
    (delegateStudents settings auth).Confined T fun _ => True := by
  unfold delegateStudents
  cases subject auth with
  | error e => trivial
  | ok uid =>
    dsimp only
    split
    · trivial
    · split
      · trivial
      · exact (confined_inquire _ _).bind fun students _ => trivial

theorem confined_afterWrite {uid : Uid} (h : T (.invalidates (Cache.Key.user uid)))
    (written : Except StoreFault UserData) :
    (afterWrite uid written).Confined T fun _ => True := by
  cases written with
  | error fault => trivial
  | ok data => exact (confined_invalidate h).bind fun _ _ => trivial

/-- To set the preferred name changes the data of the user, and forgets what is kept of them. -/
theorem confined_setPreferredName {auth : Authentication}
    (h : ∀ uid, T (.writesUser uid) ∧ T (.invalidates (Cache.Key.user uid))) (value : String) :
    (setPreferredName auth value).Confined T fun _ => True := by
  unfold setPreferredName
  cases writer auth with
  | error e => trivial
  | ok uid =>
    exact (confined_perform fun _ => (h uid).1).bind fun written _ =>
      confined_afterWrite (h uid).2 written

/-- To keep the first login changes the data of the user, and forgets what is kept of them. -/
theorem confined_recordFirstLogin {auth : Authentication}
    (h : ∀ uid, T (.writesUser uid) ∧ T (.invalidates (Cache.Key.user uid))) :
    (recordFirstLogin auth).Confined T fun _ => True := by
  unfold recordFirstLogin
  cases writer auth with
  | error e => trivial
  | ok uid =>
    refine confined_readClock.bind fun now _ => ?_
    exact (confined_perform fun _ => (h uid).1).bind fun written _ =>
      confined_afterWrite (h uid).2 written

/-- To delete a user deletes the data, and forgets what is kept of the user and the stamps. -/
theorem confined_deleteUser {target : Uid} (hwrite : T (.writesUser target))
    (huser : T (.invalidates (Cache.Key.user target)))
    (hstamps : T (.invalidates (Cache.Key.stamps target))) (auth : Authentication) :
    (deleteUser settings auth target).Confined T fun _ => True := by
  unfold deleteUser
  cases subject auth with
  | error e => trivial
  | ok uid =>
    refine (confined_inquire _ _).bind fun actor _ => ?_
    split
    · refine (confined_perform fun _ => hwrite).bind fun deleted _ => ?_
      refine (confined_invalidate huser).bind fun _ _ => ?_
      exact (confined_invalidate hstamps).bind fun _ _ => trivial
    · trivial

end

end CampusView
