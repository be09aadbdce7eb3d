import CampusView.Identity
import CampusView.Text.Blank

/-!
# Sessions

A session record says who is signed in. Somebody may look at the site as somebody else: then the
record also names the *viewer*, the person at the keyboard. There are three kinds of viewers, in
this order of precedence: plain viewers, advisors, and delegates. A session may also come from a
learning system (LTI) that vouches for the user id by itself, perhaps for somebody who masquerades
there.

* `Authentication` is what a session record says.
* `isDirect`: somebody signed in as themselves.
* `isViewingAs`: the first viewer is not the user.
* `realUserId?` is the person at the keyboard, `authority?` whose authority governs the request.
* `viewMode` classifies the session.
-/

namespace CampusView

open Json

/-! ### Session records -/

/-- The values of a session by key. -/
structure SessionRecord where
  entries : Members
deriving Inhabited

namespace SessionRecord

instance : Encode SessionRecord := ⟨fun s => .object s.entries⟩
instance : Decode SessionRecord := ⟨.any, fun v => v.members?.map SessionRecord.mk⟩

/-- The value of a key. -/
def get? (s : SessionRecord) (key : String) : Option Value := s.entries.lookup key

/-- The id of a key: a text without the blanks at its ends, or a number as it is written. A blank
text is no id. -/
def id? (s : SessionRecord) (key : String) : Option Uid :=
  match s.get? key with
  | some (.string t) => if Text.isBlankText t then none else some ⟨Text.trim t⟩
  | some (.number n) => some ⟨n.toText⟩
  | _ => none

/-- The flag of a key: true, the text `true` or `1`, or a signed integer that is not zero. -/
def flag (s : SessionRecord) (key : String) : Bool :=
  match s.get? key with
  | some (.bool b) => b
  | some (.string t) => Text.trim t == "true" || Text.trim t == "1"
  | some (.number n) => n.toSigned?.any (· != 0)
  | _ => false

end SessionRecord

/-! ### The keys of a session -/

namespace SessionKey

/-- The key of the user id. -/
def userId : String := "user_id"

/-- The key of a plain viewer. -/
def viewer : String := "original_user_id"

/-- The key of an advisor who is the viewer. -/
def advisorViewer : String := "original_advisor_user_id"

/-- The key of a delegate who is the viewer. -/
def delegateViewer : String := "original_delegate_user_id"

/-- The key of the id that masquerades in the learning system. -/
def canvasMasquerade : String := "canvas_masquerading_user_id"

/-- The key of the flag of sessions that only the learning system vouches for. -/
def ltiOnly : String := "lti_authenticated_only"

end SessionKey

/-! ### Authentication -/

/-- Who is signed in, and who is at the keyboard. -/
structure Authentication where
  userId : Option Uid := none
  viewer : Option Uid := none
  advisorViewer : Option Uid := none
  delegateViewer : Option Uid := none
  canvasMasquerade : Option Uid := none
  ltiOnly : Bool := false
deriving DecidableEq, Repr

/-- How a session looks at the site. -/
inductive ViewMode
  | anonymous
  | directlyAuthenticated
  | viewingAsAdvisor
  | viewingAsDelegate
  | viewingAsPlain
  | ltiOnly
  | ltiMasquerade
deriving DecidableEq, Repr

/-- The name of a view mode. -/
def ViewMode.name : ViewMode → String
  | anonymous => "anonymous"
  | directlyAuthenticated => "directly_authenticated"
  | viewingAsAdvisor => "viewing_as_advisor"
  | viewingAsDelegate => "viewing_as_delegate"
  | viewingAsPlain => "viewing_as_plain_original"
  | ltiOnly => "lti_only"
  | ltiMasquerade => "lti_masquerade"

/-- Whose authority governs a request. -/
inductive Authority
  /-- The authority of this user. -/
  | user (uid : Uid)
  /-- What everybody may do. -/
  | everybody
deriving DecidableEq, Repr

namespace Authentication

/-- The real user of a session that only the learning system vouches for. -/
def ltiMarker : String := "Authenticated through LTI"

/-- What a session record says. -/
def ofSession (s : SessionRecord) : Authentication where
  userId := s.id? SessionKey.userId
  viewer := s.id? SessionKey.viewer
  advisorViewer := s.id? SessionKey.advisorViewer
  delegateViewer := s.id? SessionKey.delegateViewer
  canvasMasquerade := s.id? SessionKey.canvasMasquerade
  ltiOnly := s.flag SessionKey.ltiOnly

/-- A user who signed in. -/
def direct (uid : Uid) : Authentication := { userId := some uid }

/-- The viewers, in order of precedence. -/
def viewers (a : Authentication) : List Uid :=
  [a.viewer, a.advisorViewer, a.delegateViewer].filterMap id

/-- The viewer who counts. -/
def firstViewer? (a : Authentication) : Option Uid := a.viewers.head?

/-- A delegate is among the viewers. -/
def isDelegateView (a : Authentication) : Bool := a.delegateViewer.isSome

/-- An advisor is among the viewers. -/
def isAdvisorView (a : Authentication) : Bool := a.advisorViewer.isSome

/-- Somebody signed in as themselves: there is a user, more than the learning system vouches for
them, and no viewer is anybody else. -/
def isDirect (a : Authentication) : Bool :=
  match a.userId with
  | some uid => !a.ltiOnly && a.viewers.all (· == uid)
  | none => false

/-- The person at the keyboard, for the records. -/
def realUserId? (a : Authentication) : Option String := do
  let uid ← a.userId
  match a.firstViewer? with
  | some viewer => return viewer.text
  | none =>
    match a.canvasMasquerade with
    | some canvas => return ltiMarker ++ ": masquerading Canvas ID " ++ canvas.text
    | none => return if a.ltiOnly then ltiMarker else uid.text

/-- Whose authority governs the request; nobody's when nobody is signed in. -/
def authority? (a : Authentication) : Option Authority := do
  let uid ← a.userId
  match a.firstViewer? with
  | some viewer => return .user viewer
  | none => return if a.ltiOnly then .everybody else .user uid

/-- The viewer who counts is not the user. -/
def isViewingAs (a : Authentication) : Bool :=
  match a.userId, a.firstViewer? with
  | some uid, some viewer => viewer != uid
  | _, _ => false

/-- How the session looks at the site. -/
def viewMode (a : Authentication) : ViewMode :=
  if a.userId.isNone then .anonymous
  else if a.isViewingAs then
    if a.viewer.isSome then .viewingAsPlain
    else if a.isAdvisorView then .viewingAsAdvisor
    else .viewingAsDelegate
  else if a.ltiOnly then
    if a.canvasMasquerade.isSome then .ltiMasquerade else .ltiOnly
  else .directlyAuthenticated

/-- What a log line says about a session. -/
def describe (a : Authentication) : String :=
  let ids := [
    (SessionKey.userId, a.userId),
    (SessionKey.viewer, a.viewer),
    (SessionKey.advisorViewer, a.advisorViewer),
    (SessionKey.delegateViewer, a.delegateViewer),
    (SessionKey.canvasMasquerade, a.canvasMasquerade)]
  let parts := ids.filterMap fun (key, id) => id.map fun uid => key ++ "=" ++ uid.text
  let lti := if a.ltiOnly then [SessionKey.ltiOnly ++ "=true"] else []
  "AuthenticationState " ++ ", ".intercalate (parts ++ lti)

end Authentication

end CampusView
