import CampusView.Service

/-!
# Operations

`Operation` lists what can be done within a request, `Operation.program` is what the site does for
it, and `Reply` is what comes back.
-/

namespace CampusView

open Time

/-- What can be done within a request. -/
inductive Operation
  | statusFeed
  | academicsFeed
  | delegateStudents
  | setPreferredName (value : String)
  | recordFirstLogin
  | deleteUser (target : Uid)
deriving DecidableEq, Repr

/-- What comes back from the site. -/
inductive Reply
  /-- A request was opened. -/
  | opened (auth : Authentication)
  | statusFeed (answer : Except ServiceError UserFeed)
  | academicsFeed (answer : Except ServiceError AcademicsFeed)
  | delegateStudents (answer : Except ServiceError (List DelegateStudent))
  | userData (answer : Except ServiceError UserData)
  | deleted (answer : Except ServiceError Bool)

/-- What the site does in a request: the reply, and the request after it. -/
def Operation.program (settings : Settings) (ctx : Context) : Operation → Program (Reply × Context)
  | statusFeed => do
    let (answer, ctx) ← CampusView.statusFeed settings ctx
    return (.statusFeed answer, ctx)
  | academicsFeed => do
    let (answer, ctx) ← CampusView.academicsFeed settings ctx
    return (.academicsFeed answer, ctx)
  | delegateStudents =>
    return (.delegateStudents (← CampusView.delegateStudents settings ctx.auth), ctx)
  | setPreferredName value =>
    return (.userData (← CampusView.setPreferredName ctx.auth value), ctx)
  | recordFirstLogin => return (.userData (← CampusView.recordFirstLogin ctx.auth), ctx)
  | deleteUser target =>
    return (.deleted (← CampusView.deleteUser settings ctx.auth target), ctx)

/-- The request failed. -/
def Reply.isError : Reply → Bool
  | opened _ => false
  | statusFeed answer => !answer.isOk
  | academicsFeed answer => !answer.isOk
  | delegateStudents answer => !answer.isOk
  | userData answer => !answer.isOk
  | deleted answer => !answer.isOk

/-- The feed with another time of its last change. -/
def UserFeed.restamped (t : Instant) (f : UserFeed) : UserFeed :=
  { f with lastModified := f.lastModified.map fun m => { m with timestamp := t } }

/-- The reply with another time of the last change of its feed. -/
def Reply.restamped (t : Instant) : Reply → Reply
  | statusFeed answer => statusFeed (answer.map (UserFeed.restamped t))
  | reply => reply

end CampusView
