import CampusView.Http.Headers
import CampusView.Session

/-!
# The session gateway

Signing on happens in front of the site. The gateway there hands on the session as header fields,
which it takes out of what clients send.
-/

namespace CampusView.Gateway

open Http

/-- The header fields of a session, with the keys of their values. -/
def sessionFields : List (String × String) := [
  ("x-session-user-id", SessionKey.userId),
  ("x-session-original-user-id", SessionKey.viewer),
  ("x-session-original-advisor-user-id", SessionKey.advisorViewer),
  ("x-session-original-delegate-user-id", SessionKey.delegateViewer),
  ("x-session-canvas-masquerading-user-id", SessionKey.canvasMasquerade),
  ("x-session-lti-authenticated-only", SessionKey.ltiOnly)]

/-- The value of a header field without the blanks at its ends. A blank value is none, and so is
one that is no text. -/
def fieldText? (headers : Headers) (name : String) : Option String :=
  ((headers.text? name).filter fun v => !Text.isBlankText v).map Text.trim

/-- The values of a session by key. -/
def entries (headers : Headers) : Json.Members :=
  sessionFields.filterMap fun (name, key) =>
    (fieldText? headers name).map fun v => (key, .string v)

/-- The session that header fields hand on; none if there are no values. -/
def session? (headers : Headers) : Option SessionRecord :=
  match entries headers with
  | [] => none
  | ms => some ⟨ms⟩

end CampusView.Gateway
