import CampusView.Academics
import CampusView.Digest.Sha256
import CampusView.Profile
import CampusView.Tabs

/-!
# The status feed

The status feed tells a page who is signed in and which tabs to show. `compose` makes it of a
profile and the answers of other systems; it asks nobody and cannot fail. `contentHash` identifies
what a feed says.
-/

namespace CampusView

open Json Time

/-- When the content of a feed changed last. -/
structure LastModified where
  hash : String
  timestamp : Instant
deriving DecidableEq, Repr

/-- The members of `LastModified`. -/
def LastModified.layout : Layout := [("hash", .text), ("timestamp", .text)]

instance : Encode LastModified :=
  ⟨fun m => .object [("hash", .string m.hash), ("timestamp", encode m.timestamp)]⟩

instance : Decode LastModified := ⟨.record LastModified.layout, fun v => do
  let r ← v.record? LastModified.layout
  return { hash := ← r.get? "hash", timestamp := ← r.get? "timestamp" }⟩

/-- The status feed. -/
structure UserFeed where
  isSuperuser : Bool
  isViewer : Bool
  isDirectlyAuthenticated : Bool
  firstLoginAt : Option Instant
  firstName : String
  lastName : String
  fullName : String
  givenFirstName : String
  givenFullName : String
  preferredName : String
  roles : RoleSet
  uid : Uid
  sid : Option String
  campusSolutionsId : Option String
  officialBmailAddress : Option String
  isCampusSolutionsStudent : Bool
  isDelegateUser : Bool
  showSisProfileUi : Bool
  hasDashboardTab : Bool
  hasAcademicsTab : Bool
  canViewGrades : Bool
  hasFinancialsTab : Bool
  hasToolboxTab : Bool
  hasCanvasAccount : Bool
  hasGoogleAccessToken : Bool
  hasStudentHistory : Bool
  hasInstructorHistory : Bool
  inEducationAbroadProgram : Bool
  googleEmail : Option String
  canvasEmail : Option String
  noStudentId : Bool
  delegateViewAsPrivileges : Option PrivilegeSet
  lastModified : Option LastModified
deriving DecidableEq

/-- The members of `UserFeed`. -/
def UserFeed.layout : Layout := [
  ("isSuperuser", .any),
  ("isViewer", .any),
  ("isDirectlyAuthenticated", .any),
  ("firstLoginAt", .optional .text),
  ("firstName", .text),
  ("lastName", .text),
  ("fullName", .text),
  ("givenFirstName", .text),
  ("givenFullName", .text),
  ("preferredName", .text),
  ("roles", .any),
  ("uid", .text),
  ("sid", .optional .text),
  ("campusSolutionsID", .optional .text),
  ("officialBmailAddress", .optional .text),
  ("isCampusSolutionsStudent", .any),
  ("isDelegateUser", .any),
  ("showSisProfileUI", .any),
  ("hasDashboardTab", .any),
  ("hasAcademicsTab", .any),
  ("canViewGrades", .any),
  ("hasFinancialsTab", .any),
  ("hasToolboxTab", .any),
  ("hasCanvasAccount", .any),
  ("hasGoogleAccessToken", .any),
  ("hasStudentHistory", .any),
  ("hasInstructorHistory", .any),
  ("inEducationAbroadProgram", .any),
  ("googleEmail", .optional .text),
  ("canvasEmail", .optional .text),
  ("noStudentId", .any),
  ("delegateViewAsPrivileges", .optional (.record PrivilegeSet.layout)),
  ("lastModified", .optional (.record LastModified.layout))]

instance : Encode UserFeed := ⟨fun f => .object ([
  ("isSuperuser", .bool f.isSuperuser),
  ("isViewer", .bool f.isViewer),
  ("isDirectlyAuthenticated", .bool f.isDirectlyAuthenticated),
  ("firstLoginAt", encode f.firstLoginAt),
  ("firstName", .string f.firstName),
  ("lastName", .string f.lastName),
  ("fullName", .string f.fullName),
  ("givenFirstName", .string f.givenFirstName),
  ("givenFullName", .string f.givenFullName),
  ("preferredName", .string f.preferredName),
  ("roles", encode f.roles),
  ("uid", encode f.uid),
  ("sid", encode f.sid),
  ("campusSolutionsID", encode f.campusSolutionsId),
  ("officialBmailAddress", encode f.officialBmailAddress),
  ("isCampusSolutionsStudent", .bool f.isCampusSolutionsStudent),
  ("isDelegateUser", .bool f.isDelegateUser),
  ("showSisProfileUI", .bool f.showSisProfileUi),
  ("hasDashboardTab", .bool f.hasDashboardTab),
  ("hasAcademicsTab", .bool f.hasAcademicsTab),
  ("canViewGrades", .bool f.canViewGrades),
  ("hasFinancialsTab", .bool f.hasFinancialsTab),
  ("hasToolboxTab", .bool f.hasToolboxTab),
  ("hasCanvasAccount", .bool f.hasCanvasAccount),
  ("hasGoogleAccessToken", .bool f.hasGoogleAccessToken),
  ("hasStudentHistory", .bool f.hasStudentHistory),
  ("hasInstructorHistory", .bool f.hasInstructorHistory),
  ("inEducationAbroadProgram", .bool f.inEducationAbroadProgram),
  ("googleEmail", encode f.googleEmail),
  ("canvasEmail", encode f.canvasEmail),
  ("noStudentId", .bool f.noStudentId)] ++
  optionalMember "delegateViewAsPrivileges" (f.delegateViewAsPrivileges.map encode) ++
  optionalMember "lastModified" (f.lastModified.map encode))⟩

instance : Decode UserFeed := ⟨.record UserFeed.layout, fun v => do
  let r ← v.record? UserFeed.layout
  return {
    isSuperuser := ← r.get? "isSuperuser"
    isViewer := ← r.get? "isViewer"
    isDirectlyAuthenticated := ← r.get? "isDirectlyAuthenticated"
    firstLoginAt := ← r.option? "firstLoginAt"
    firstName := ← r.get? "firstName"
    lastName := ← r.get? "lastName"
    fullName := ← r.get? "fullName"
    givenFirstName := ← r.get? "givenFirstName"
    givenFullName := ← r.get? "givenFullName"
    preferredName := ← r.get? "preferredName"
    roles := ← r.get? "roles"
    uid := ← r.get? "uid"
    sid := ← r.option? "sid"
    campusSolutionsId := ← r.option? "campusSolutionsID"
    officialBmailAddress := ← r.option? "officialBmailAddress"
    isCampusSolutionsStudent := ← r.get? "isCampusSolutionsStudent"
    isDelegateUser := ← r.get? "isDelegateUser"
    showSisProfileUi := ← r.get? "showSisProfileUI"
    hasDashboardTab := ← r.get? "hasDashboardTab"
    hasAcademicsTab := ← r.get? "hasAcademicsTab"
    canViewGrades := ← r.get? "canViewGrades"
    hasFinancialsTab := ← r.get? "hasFinancialsTab"
    hasToolboxTab := ← r.get? "hasToolboxTab"
    hasCanvasAccount := ← r.get? "hasCanvasAccount"
    hasGoogleAccessToken := ← r.get? "hasGoogleAccessToken"
    hasStudentHistory := ← r.get? "hasStudentHistory"
    hasInstructorHistory := ← r.get? "hasInstructorHistory"
    inEducationAbroadProgram := ← r.get? "inEducationAbroadProgram"
    googleEmail := ← r.option? "googleEmail"
    canvasEmail := ← r.option? "canvasEmail"
    noStudentId := ← r.get? "noStudentId"
    delegateViewAsPrivileges := ← r.option? "delegateViewAsPrivileges"
    lastModified := ← r.option? "lastModified" }⟩

/-- What a feed is composed of. -/
structure FeedInputs where
  profile : Profile
  auth : Authentication
  /-- The authority that governs the request. -/
  actor : UserAuth
  /-- What the delegate may see, in a delegate's view. -/
  privileges : Option PrivilegeSet
  /-- The students who gave the user access. -/
  delegateStudents : List DelegateStudent
  history : CourseHistory
  accounts : LinkedAccounts
  data : Option UserData

/-- First and last name with a space between them, and no blanks at the ends. -/
def joinName (first last : String) : String := Text.trim (first ++ " " ++ last)

/-- The status feed. -/
def compose (i : FeedInputs) : UserFeed :=
  let p := i.profile
  let delegateUser := isDelegateUser i.auth i.delegateStudents
  { isSuperuser := i.actor.canAdministrate
    isViewer := i.actor.canViewAs
    isDirectlyAuthenticated := i.auth.isDirect
    firstLoginAt := i.data.bind UserData.firstLoginAt
    firstName := p.firstName
    lastName := p.lastName
    fullName := joinName p.firstName p.lastName
    givenFirstName := p.givenFirstName
    givenFullName := joinName p.givenFirstName p.familyName
    preferredName := p.preferredName
    roles := p.roles
    uid := p.uid
    sid := p.studentId
    campusSolutionsId := p.campusSolutionsId
    officialBmailAddress := p.officialBmailAddress
    isCampusSolutionsStudent := p.isCampusSolutionsStudent
    isDelegateUser := delegateUser
    showSisProfileUi := p.sisProfileVisible
    hasDashboardTab := !i.auth.isDelegateView
    hasAcademicsTab := hasAcademicsTab p.roles i.privileges i.history
    canViewGrades := canViewGrades p.roles i.privileges i.history
    hasFinancialsTab := hasFinancialsTab p.roles i.privileges
    hasToolboxTab := hasToolboxTab i.auth i.actor p.roles delegateUser
    hasCanvasAccount := i.accounts.hasCanvasAccount
    hasGoogleAccessToken := i.accounts.hasGoogleAccessToken
    hasStudentHistory := i.history.hasStudentHistory
    hasInstructorHistory := i.history.hasInstructorHistory
    inEducationAbroadProgram := p.educationAbroad
    googleEmail := i.accounts.googleEmail
    canvasEmail := i.accounts.canvasEmail
    noStudentId := p.noStudentId
    delegateViewAsPrivileges := i.privileges
    lastModified := none }

/-- The hash of what a value says: the SHA-256 digest of its text, in hexadecimal. -/
def contentHash [Encode α] (x : α) : String := Digest.sha256Hex (encodeText x)

end CampusView
