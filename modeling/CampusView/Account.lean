import CampusView.Json.Codec

/-!
# Accounts

What other systems tell about somebody's account: the authority on this site, whether there ever
was a course, and the accounts elsewhere. Nobody has any of it unless a system says so.
-/

namespace CampusView

open Json

/-- The authority of a user on the site. -/
structure UserAuth where
  isSuperuser : Bool := false
  isViewer : Bool := false
  active : Bool := false
deriving DecidableEq, Repr

namespace UserAuth

/-- What everybody may do. -/
def everybody : UserAuth := {}

/-- May administrate. -/
def canAdministrate (a : UserAuth) : Bool := a.active && a.isSuperuser

/-- May view the site as somebody else. -/
def canViewAs (a : UserAuth) : Bool := a.active && (a.isSuperuser || a.isViewer)

/-- The members of `UserAuth`. -/
def layout : Layout := [("is_superuser", .any), ("is_viewer", .any), ("active", .any)]

end UserAuth

instance : Encode UserAuth := ⟨fun a => .object [
  ("is_superuser", .bool a.isSuperuser),
  ("is_viewer", .bool a.isViewer),
  ("active", .bool a.active)]⟩

instance : Decode UserAuth := ⟨.record UserAuth.layout, fun v => do
  let r ← v.record? UserAuth.layout
  return {
    isSuperuser := ← r.getD? "is_superuser" false
    isViewer := ← r.getD? "is_viewer" false
    active := ← r.getD? "active" false }⟩

/-- Whether somebody ever took or taught a course. -/
structure CourseHistory where
  hasStudentHistory : Bool := false
  hasInstructorHistory : Bool := false
deriving DecidableEq, Repr

/-- The members of `CourseHistory`. -/
def CourseHistory.layout : Layout :=
  [("has_student_history", .any), ("has_instructor_history", .any)]

instance : Encode CourseHistory := ⟨fun h => .object [
  ("has_student_history", .bool h.hasStudentHistory),
  ("has_instructor_history", .bool h.hasInstructorHistory)]⟩

instance : Decode CourseHistory := ⟨.record CourseHistory.layout, fun v => do
  let r ← v.record? CourseHistory.layout
  return {
    hasStudentHistory := ← r.getD? "has_student_history" false
    hasInstructorHistory := ← r.getD? "has_instructor_history" false }⟩

/-- The accounts that somebody has elsewhere. -/
structure LinkedAccounts where
  hasCanvasAccount : Bool := false
  hasGoogleAccessToken : Bool := false
  googleEmail : Option String := none
  canvasEmail : Option String := none
deriving DecidableEq, Repr

/-- The members of `LinkedAccounts`. -/
def LinkedAccounts.layout : Layout := [
  ("has_canvas_account", .any),
  ("has_google_access_token", .any),
  ("google_email", .optional .text),
  ("canvas_email", .optional .text)]

instance : Encode LinkedAccounts := ⟨fun a => .object [
  ("has_canvas_account", .bool a.hasCanvasAccount),
  ("has_google_access_token", .bool a.hasGoogleAccessToken),
  ("google_email", encode a.googleEmail),
  ("canvas_email", encode a.canvasEmail)]⟩

instance : Decode LinkedAccounts := ⟨.record LinkedAccounts.layout, fun v => do
  let r ← v.record? LinkedAccounts.layout
  return {
    hasCanvasAccount := ← r.getD? "has_canvas_account" false
    hasGoogleAccessToken := ← r.getD? "has_google_access_token" false
    googleEmail := ← r.getD? "google_email" none
    canvasEmail := ← r.getD? "canvas_email" none }⟩

end CampusView
