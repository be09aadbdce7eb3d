import CampusView.Admission
import CampusView.Memo

/-!
# The service

What the site does for a request, each as a program.

* `authenticate` opens a request. Somebody who signed in as themselves may turn out to be a held
  applicant, and then nobody is signed in.
* `statusFeed` and `academicsFeed` show the pages of the user, from the cache or composed anew. A
  feed that was composed while a campus system failed is kept for a short time only.
* `delegateStudents` lists the students who gave the user access.
* `setPreferredName` and `recordFirstLogin` write the data of a user who signed in as themselves,
  and `deleteUser` needs the authority of an administrator. What is cached of the user is
  forgotten then.
-/

namespace CampusView

open Json Time

/-! ### Errors -/

/-- Why a request is refused. -/
inductive Refusal
  | readOnlyView
  | noAcademicPrivilege
  | notTheDelegate
  | notAdministrator
deriving DecidableEq, Repr

/-- What is said about a refusal. -/
def Refusal.message : Refusal → String
  | readOnlyView => "view-as sessions cannot modify user data"
  | noAcademicPrivilege => "delegate holds neither enrollment nor grade privileges"
  | notTheDelegate => "delegate students are listed only to the delegate"
  | notAdministrator => "administrator authority required"

/-- Why a request fails. -/
inductive ServiceError
  /-- Nobody is signed in. -/
  | unauthenticated
  | forbidden (refusal : Refusal)
  /-- The store cannot read the data it keeps. -/
  | store (fault : StoreFault)
deriving DecidableEq, Repr

/-- What is said about a failure. What is wrong with the store is nobody's business. -/
def ServiceError.message : ServiceError → String
  | unauthenticated => "not authenticated"
  | forbidden refusal => "forbidden: " ++ refusal.message
  | store _ => "store error"

/-! ### Who asks -/

/-- Open a request. -/
def authenticate (settings : Settings) (session : SessionRecord) : Program Context := do
  let auth := Authentication.ofSession session
  match auth.userId with
  | some uid =>
    if auth.isDirect then return { auth := { auth with userId := ← letIn settings uid } }
    else return { auth }
  | none => return { auth }

/-- Whom a request is about. -/
def subject (auth : Authentication) : Except ServiceError Uid :=
  match auth.userId with
  | some uid => .ok uid
  | none => .error .unauthenticated

/-- Whose data a request may write. -/
def writer (auth : Authentication) : Except ServiceError Uid := do
  let uid ← subject auth
  if auth.isDirect then return uid else throw (.forbidden .readOnlyView)

section

variable {auth : Authentication} {uid : Uid} {e : ServiceError}

theorem subject_eq_ok_iff : subject auth = .ok uid ↔ auth.userId = some uid := by
  unfold subject
  cases auth.userId <;> simp

theorem writer_eq_ok_iff :
    writer auth = .ok uid ↔ auth.userId = some uid ∧ auth.isDirect = true := by
  unfold writer subject
  cases auth.userId <;> cases auth.isDirect <;> simp [bind, Except.bind, pure, Except.pure]

theorem subject_eq_error_iff :
    subject auth = .error e ↔ auth.userId = none ∧ e = .unauthenticated := by
  unfold subject
  cases auth.userId <;> simp [eq_comm]

theorem writer_eq_error :
    writer auth = .error e → e = .unauthenticated ∨ e = .forbidden .readOnlyView := by
  unfold writer subject
  cases auth.userId <;> cases auth.isDirect <;>
    simp +contextual [bind, Except.bind, pure, Except.pure, throw, throwThe,
      MonadExceptOf.throw, eq_comm]

end

/-- Ask for the authority that governs a request. -/
def askAuthority (auth : Authentication) : Inquiry (Lookup UserAuth) :=
  match auth.authority? with
  | some (.user uid) => Inquiry.ask .userAuth uid
  | _ => pure (.found .everybody)

/-- How a session looks at the site, and who is at the keyboard. Feeds of one user are cached
apart by it. -/
def viewKey (auth : Authentication) : String :=
  match auth.realUserId? with
  | some real => auth.viewMode.name ++ ":" ++ real
  | none => auth.viewMode.name

/-! ### The status feed -/

/-- What the campus systems say about a feed. -/
structure FeedAnswers where
  sources : SourceAnswers
  actor : Lookup UserAuth
  history : Lookup CourseHistory
  accounts : Lookup LinkedAccounts
  delegateStudents : Lookup (List DelegateStudent)
  resolution : Option Resolution

namespace FeedAnswers

/-- Ask what is needed for the feed of a request. -/
def inquiry (settings : Settings) (ctx : Context) (uid : Uid) : Inquiry FeedAnswers :=
  let flags := settings.flags
  let sources := SourceAnswers.mk <$> Inquiry.ask .legacy uid
    <*> Inquiry.askIf flags.csProfile .modern uid
    <*> Inquiry.ask .crosswalk uid
  FeedAnswers.mk <$> sources
    <*> askAuthority ctx.auth
    <*> Inquiry.ask .courseHistory uid
    <*> Inquiry.ask .linkedAccounts uid
    <*> Inquiry.askIf (flags.csDelegatedAccess && ctx.auth.isDirect) .delegateStudents uid
    <*> ctx.resolution settings

/-- Some campus system failed. -/
def isDegraded (a : FeedAnswers) : Bool :=
  a.sources.legacy.isErrored || a.sources.modern.isErrored || a.sources.crosswalk.isErrored ||
    a.actor.isErrored || a.history.isErrored || a.accounts.isErrored ||
    a.delegateStudents.isErrored || a.resolution.any Resolution.degraded

/-- The feed that the answers and the kept data make. What failed counts as unknown. -/
def feed (a : FeedAnswers) (flags : FeatureFlags) (auth : Authentication) (uid : Uid)
    (data : Option UserData) : UserFeed :=
  compose {
    profile := reconcile uid a.sources data (ViewContext.of flags auth)
    auth
    actor := a.actor.found?.getD .everybody
    privileges := a.resolution.map Resolution.privileges
    delegateStudents := a.delegateStudents.found?.getD []
    history := a.history.found?.getD {}
    accounts := a.accounts.found?.getD {}
    data }

end FeedAnswers

/-- A feed that was just composed. -/
structure Composition where
  feed : UserFeed
  /-- A campus system or the store failed. -/
  degraded : Bool
  /-- What the delegate may see, which is settled now. -/
  resolution : Option Resolution

/-- Compose the feed of a user. -/
def composeFeed (settings : Settings) (ctx : Context) (uid : Uid) : Program Composition := do
  let data ← Program.perform (.readUser uid)
  let answers ← Program.perform
    (.inquire settings.timeout (FeedAnswers.inquiry settings ctx uid))
  return {
    feed := answers.feed settings.flags ctx.auth uid (data.toOption.bind id)
    degraded := answers.isDegraded || !data.isOk
    resolution := answers.resolution }

/-- The feed of the user of a request without its stamp, and the request after it. -/
def currentFeed (settings : Settings) (ctx : Context) (uid : Uid) :
    Program (UserFeed × Context) := do
  let key := Cache.Key.status uid (viewKey ctx.auth)
  match ← Program.cached key with
  | some feed => return (feed, ctx)
  | none =>
    let c ← composeFeed settings ctx uid
    Program.remember key c.feed (if c.degraded then settings.failureTtl else settings.cacheTtl)
    return (c.feed, ctx.settle c.resolution)

/-- The status feed of the user of a request, and the request after it. -/
def statusFeed (settings : Settings) (ctx : Context) :
    Program (Except ServiceError UserFeed × Context) :=
  match subject ctx.auth with
  | .error e => return (.error e, ctx)
  | .ok uid => do
    let (feed, ctx) ← currentFeed settings ctx uid
    let last ← stamp (Cache.Key.stamp uid (viewKey ctx.auth)) (contentHash feed)
    return (.ok { feed with lastModified := some last }, ctx)

/-! ### Academics -/

/-- Ask for the academics feed of a user. A user without a record has an empty one. -/
def askAcademics (settings : Settings) (uid : Uid) :
    Program (Except String (AcademicsFeed × Nanos)) := do
  match ← Program.perform (.inquire settings.timeout (Inquiry.ask .academics uid)) with
  | .found feed => return .ok (feed, settings.cacheTtl)
  | .notFound => return .ok ({}, settings.cacheTtl)
  | .errored details => return .error details

/-- The academics feed of the user of a request, and the request after it. Privileges are settled
before anything else is read, and the cache holds the feed as no delegate sees it. -/
def academicsFeed (settings : Settings) (ctx : Context) :
    Program (Except ServiceError AcademicsFeed × Context) :=
  match subject ctx.auth with
  | .error e => return (.error e, ctx)
  | .ok uid => do
    let resolution ← Program.perform (.inquire settings.timeout (ctx.resolution settings))
    let ctx := ctx.settle resolution
    let privileges := resolution.map Resolution.privileges
    if privileges.all PrivilegeSet.grantsAcademics then
      let feed ← Program.cachedOr (Cache.Key.academics uid) (askAcademics settings uid)
      match (feed.toOption.getD {}).compose? privileges with
      | some feed => return (.ok feed, ctx)
      | none => return (.error (.forbidden .noAcademicPrivilege), ctx)
    else return (.error (.forbidden .noAcademicPrivilege), ctx)

/-! ### Delegates -/

/-- The students who gave the user of a request access. -/
def delegateStudents (settings : Settings) (auth : Authentication) :
    Program (Except ServiceError (List DelegateStudent)) :=
  match subject auth with
  | .error e => return .error e
  | .ok uid =>
    if !auth.isDirect then return .error (.forbidden .notTheDelegate)
    else if !settings.flags.csDelegatedAccess then return .ok []
    else do
      let students ← Program.perform
        (.inquire settings.timeout (Inquiry.ask .delegateStudents uid))
      return .ok (students.found?.getD [])

/-! ### User data -/

/-- A preferred name without blanks at its ends; a blank one clears the name. -/
def preferredName? (value : String) : Option String :=
  if Text.isBlankText value then none else some (Text.trim value)

/-- Forget what is cached of a user after a write, unless the write could not be read back. -/
def afterWrite (uid : Uid) (written : Except StoreFault UserData) :
    Program (Except ServiceError UserData) := do
  match written with
  | .error fault => return .error (.store fault)
  | .ok data =>
    Program.perform (.invalidate (Cache.Key.user uid))
    return .ok data

/-- Set the preferred name of the user of a request. -/
def setPreferredName (auth : Authentication) (value : String) :
    Program (Except ServiceError UserData) :=
  match writer auth with
  | .error e => return .error e
  | .ok uid => do afterWrite uid (← Program.perform (.setName uid (preferredName? value)))

/-- Keep the instant of the first login of the user of a request. -/
def recordFirstLogin (auth : Authentication) : Program (Except ServiceError UserData) :=
  match writer auth with
  | .error e => return .error e
  | .ok uid => do
    let now ← Program.perform .readClock
    afterWrite uid (← Program.perform (.recordLogin uid now))

/-- Delete everything kept of a user. The answer is whether there was anything. -/
def deleteUser (settings : Settings) (auth : Authentication) (target : Uid) :
    Program (Except ServiceError Bool) :=
  match subject auth with
  | .error e => return .error e
  | .ok _ => do
    let actor ← Program.perform (.inquire settings.timeout (askAuthority auth))
    if actor.found?.any UserAuth.canAdministrate then
      let deleted ← Program.perform (.deleteUser target)
      Program.perform (.invalidate (Cache.Key.user target))
      Program.perform (.invalidate (Cache.Key.stamps target))
      return .ok deleted
    else return .error (.forbidden .notAdministrator)

end CampusView
