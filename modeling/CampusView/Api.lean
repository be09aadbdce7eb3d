import CampusView.Gateway
import CampusView.Http.Body
import CampusView.Http.EntityTag
import CampusView.Http.MediaType
import CampusView.Http.Target
import CampusView.Service

/-!
# The API

The service over HTTP. `Request.of?` takes a request as it comes, `handle` answers it.

| Method   | Path                         | Answer                                        |
|----------|------------------------------|-----------------------------------------------|
| `GET`    | `/my/status`                 | the status feed with its hash as entity tag   |
| `POST`   | `/my/preferred_name`         | the user data after the change                |
| `POST`   | `/my/record_first_login`     | the user data after the login                 |
| `GET`    | `/my/academics`              | the academics feed                            |
| `GET`    | `/my/delegate_students`      | the students who gave the user access         |
| `DELETE` | `/admin/users/{uid}`         | whether there was anything to delete          |

The session of a request is the one that its header fields tell, unless another one is given. A body
is read before anybody asks who is signed in.
-/

namespace CampusView

open Json Http

/-! ### Requests and responses -/

/-- A request. -/
structure Request where
  method : String
  path : String
  headers : Headers
  body : ByteArray

/-- A request as it comes, with a text for its body. None if its method, target or a header field is
malformed. -/
def Request.of? (method target : String) (fields : List (String × String)) (body : String) :
    Option Request := do
  if isToken method then
    return {
      method
      path := ← targetPath? target
      headers := ← Headers.ofList? fields
      body := body.toUTF8
    }
  else none

/-- A response. -/
structure Response where
  status : Nat
  /-- The entity tag. -/
  tag : Option String := none
  body : Option Value := none

/-- The status that stands for a failure. -/
def ServiceError.status : ServiceError → Nat
  | unauthenticated => 401
  | forbidden _ => 403
  | store _ => 500

namespace Response

/-- A response with nothing in it. -/
def bare (status : Nat) : Response := { status }

/-- The response to a request that the service answered. -/
def of : Except ServiceError Value → Response
  | .ok body => { status := 200, body := some body }
  | .error e => { status := e.status, body := some (.object [("error", .string e.message)]) }

end Response

/-! ### Endpoints -/

/-- What a path names. -/
inductive Endpoint
  | status
  | preferredName
  | firstLogin
  | academics
  | delegateStudents
  /-- A user, with the id as it stands in the path. -/
  | user (segment : String)
deriving DecidableEq, Repr

namespace Endpoint

/-- The endpoint at a path. -/
def ofPath? (path : String) : Option Endpoint :=
  match (Text.splitOn '/' path.toList).map String.ofList with
  | ["", "my", "status"] => some status
  | ["", "my", "preferred_name"] => some preferredName
  | ["", "my", "record_first_login"] => some firstLogin
  | ["", "my", "academics"] => some academics
  | ["", "my", "delegate_students"] => some delegateStudents
  | ["", "admin", "users", segment] => if segment.isEmpty then none else some (user segment)
  | _ => none

/-- The method of an endpoint. -/
def method : Endpoint → String
  | status | academics | delegateStudents => "GET"
  | preferredName | firstLogin => "POST"
  | user _ => "DELETE"

/-- An endpoint takes a method. Where `GET` is taken, so is `HEAD`. -/
def takes (e : Endpoint) (method : String) : Bool :=
  method == e.method || (method == "HEAD" && e.method == "GET")

end Endpoint

/-! ### Answers -/

/-- The session of a request. A request without one is anonymous. -/
def Request.session (r : Request) : SessionRecord := (Gateway.session? r.headers).getD ⟨[]⟩

/-- The status feed, or only its tag if the client holds a current copy. -/
def answerStatus (settings : Settings) (r : Request) (session : SessionRecord := r.session) :
    Program Response := do
  let ctx ← authenticate settings session
  let (result, _) ← statusFeed settings ctx
  match result with
  | .error e => return .of (.error e)
  | .ok feed =>
    let tag := feed.lastModified.map fun m => quotedTag m.hash
    let current := tag.any fun tag => (r.headers.text? "if-none-match").any fun sent =>
      tagMatches sent tag
    if current then return { status := 304, tag }
    else return { status := 200, tag, body := some (encode feed) }

/-- The preferred name in a body, or the status that refuses the body: for its type, for its size,
because it is no JSON, or because it has another shape. -/
def nameOfBody (r : Request) : Except Nat String :=
  let layout : Layout := [("preferredName", .optional .text)]
  let isJson := ((r.headers.text? "content-type").bind MediaType.parse?).any MediaType.isJson
  if !isJson then .error 415
  else if bodyLimit < r.body.size then .error 413
  else match read (.record layout) (textOfBytes r.body) with
    | .error .malformed => .error 400
    | .error .mismatch => .error 422
    | .ok v =>
      let name? : Option (Option String) := (v.record? layout).bind fun body =>
        body.getD? "preferredName" none
      match name? with
      | some name => .ok (name.getD "")
      | none => .error 422

/-- Set the preferred name. -/
def answerPreferredName (settings : Settings) (r : Request)
    (session : SessionRecord := r.session) : Program Response :=
  match nameOfBody r with
  | .error status => return .bare status
  | .ok name => do
    let ctx ← authenticate settings session
    return .of ((← setPreferredName ctx.auth name).map encode)

/-- Delete a user. -/
def answerDelete (settings : Settings) (r : Request) (segment : String)
    (session : SessionRecord := r.session) : Program Response :=
  match percentDecoded? segment with
  | none => return .bare 400
  | some uid => do
    let ctx ← authenticate settings session
    let deleted ← deleteUser settings ctx.auth ⟨uid⟩
    return .of (deleted.map fun b => .object [("deleted", .bool b)])

/-- The answer of an endpoint. -/
def answer (settings : Settings) (r : Request) (e : Endpoint)
    (session : SessionRecord := r.session) : Program Response :=
  match e with
  | .status => answerStatus settings r session
  | .preferredName => answerPreferredName settings r session
  | .firstLogin => do
    let ctx ← authenticate settings session
    return .of ((← recordFirstLogin ctx.auth).map encode)
  | .academics => do
    let ctx ← authenticate settings session
    let (result, _) ← academicsFeed settings ctx
    return .of (result.map encode)
  | .delegateStudents => do
    let ctx ← authenticate settings session
    let students ← delegateStudents settings ctx.auth
    return .of (students.map fun ss =>
      .object [("students", .array (ss.map DelegateStudent.view))])
  | .user segment => answerDelete settings r segment session

/-- Answer a request. -/
def handle (settings : Settings) (r : Request) (session : SessionRecord := r.session) :
    Program Response :=
  match Endpoint.ofPath? r.path with
  | none => return .bare 404
  | some e =>
    if e.takes r.method then do
      let response ← answer settings r e session
      return if r.method == "HEAD" then { response with body := none } else response
    else return .bare 405

end CampusView
