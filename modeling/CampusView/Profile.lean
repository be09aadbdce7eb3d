import CampusView.Attribute
import CampusView.Flags
import CampusView.Lookup
import CampusView.Session
import CampusView.UserData

/-!
# Profiles

While the student record moves from a legacy system to a modern one, both report about the same
people. `reconcile` makes one profile of the two answers, the crosswalk and the kept user data.

* The modern profile is *visible* if the feature is on, nobody views the site as somebody else,
  and the person is a student of the modern system or the flag for other users is on.
* A field comes from the modern record if that is visible and its value is valid, and else from
  the legacy record.
* Given and family name come from the modern record whenever it is there.
* Roles are those of the legacy record. A visible modern record decides about the roles on which
  it is trusted, but never makes a former student a student.
-/

namespace CampusView

open Json

/-- What the campus systems say about a person. -/
structure SourceAnswers where
  legacy : Lookup AttributeBag
  modern : Lookup AttributeBag
  crosswalk : Lookup CorrelatedIds

/-- What decides about visibility apart from the answers. -/
structure ViewContext where
  flags : FeatureFlags
  /-- Somebody views the site as somebody else. -/
  viewAs : Bool
deriving DecidableEq, Repr

/-- The context of a session. -/
def ViewContext.of (flags : FeatureFlags) (auth : Authentication) : ViewContext :=
  ⟨flags, auth.isViewingAs || auth.isDelegateView⟩

/-- The one profile of a person. -/
structure Profile where
  uid : Uid
  defaultName : Option String
  preferredName : String
  firstName : String
  lastName : String
  givenFirstName : String
  familyName : String
  studentId : Option String
  campusSolutionsId : Option String
  delegateUserId : Option String
  emailAddress : Option String
  officialBmailAddress : Option String
  educationAbroad : Bool
  calResidencyFlag : Option String
  roles : RoleSet
  isCampusSolutionsStudent : Bool
  sisProfileVisible : Bool
  noStudentId : Bool
deriving DecidableEq

instance : Encode Profile := ⟨fun p => .object [
  ("uid", encode p.uid),
  ("defaultName", encode p.defaultName),
  ("preferredName", .string p.preferredName),
  ("firstName", .string p.firstName),
  ("lastName", .string p.lastName),
  ("givenFirstName", .string p.givenFirstName),
  ("familyName", .string p.familyName),
  ("studentId", encode p.studentId),
  ("campusSolutionsId", encode p.campusSolutionsId),
  ("delegateUserId", encode p.delegateUserId),
  ("emailAddress", encode p.emailAddress),
  ("officialBmailAddress", encode p.officialBmailAddress),
  ("educationAbroad", .bool p.educationAbroad),
  ("calResidencyFlag", encode p.calResidencyFlag),
  ("roles", encode p.roles),
  ("isCampusSolutionsStudent", .bool p.isCampusSolutionsStudent),
  ("sisProfileVisible", .bool p.sisProfileVisible),
  ("noStudentId", .bool p.noStudentId)]⟩

/-- A value as the text of a name or id: a text that is not blank, or a number as it is written. -/
def scalarText? : Value → Option String
  | .string s => if Text.isBlankText s then none else some s
  | .number n => some n.toText
  | _ => none

/-- The modern record belongs to a student of the modern system. -/
def isCampusSolutionsStudent (modern : Lookup AttributeBag) : Bool :=
  let id? := do scalarText? (← (← modern.found?).get? .campusSolutionsId)
  id?.any isCampusSolutionsId

/-- The modern profile is visible. -/
def sisProfileVisible (ctx : ViewContext) (modern : Lookup AttributeBag) : Bool :=
  ctx.flags.csProfile && !ctx.viewAs &&
    (isCampusSolutionsStudent modern || ctx.flags.csProfileVisibleForLegacyUsers)

/-- The roles of both records. -/
def mergeRoles (legacy : RoleSet) (modern : Option RoleSet) : RoleSet :=
  let merged := match modern with
    | some modern =>
      let trusted := if legacy.get .exStudent then modern.erase .student else modern
      legacy.overlay trusted Role.modernWhitelist
    | none => legacy
  if merged.get .exStudent then merged.set .student false else merged

namespace SourceAnswers

variable (answers : SourceAnswers) (ctx : ViewContext)

/-- The modern record, if it is visible. -/
def visibleModern? : Option AttributeBag :=
  if sisProfileVisible ctx answers.modern then answers.modern.found? else none

/-- A valid value of a field. -/
def validValue? (bag : Option AttributeBag) (field : Field) : Option Value := do
  (validate field (← (← bag).get? field)).toOption

/-- The value of a field: the valid one of the visible modern record, else the one of the legacy
record. -/
def value? (field : Field) : Option Value :=
  (validValue? (answers.visibleModern? ctx) field).or
    (answers.legacy.found?.bind fun bag => bag.get? field)

/-- The value of a field as the text of a name or id. -/
def text? (field : Field) : Option String := (answers.value? ctx field).bind scalarText?

/-- The text of a field of the modern record, visible or not. -/
def modernText? (field : Field) : Option String :=
  (validValue? answers.modern.found? field).bind scalarText?

end SourceAnswers

/-- The one profile of a person. -/
def reconcile (uid : Uid) (answers : SourceAnswers) (data : Option UserData) (ctx : ViewContext) :
    Profile :=
  let text := answers.text? ctx
  let ids := answers.crosswalk.found?
  let defaultName := text .personName
  let firstName := (text .firstName).getD ""
  let lastName := (text .lastName).getD ""
  let studentId := (text .studentId).or (ids.bind CorrelatedIds.studentId)
  let legacy := answers.legacy.found?
  { uid
    defaultName
    preferredName := ((data.bind UserData.preferredName).or defaultName).getD ""
    firstName
    lastName
    givenFirstName := (answers.modernText? .givenName).getD firstName
    familyName := (answers.modernText? .familyName).getD lastName
    studentId
    campusSolutionsId := (text .campusSolutionsId).or (ids.bind CorrelatedIds.campusSolutionsId)
    delegateUserId := ids.bind CorrelatedIds.delegateUserId
    emailAddress := text .emailAddress
    officialBmailAddress := text .officialBmailAddress
    educationAbroad := ((answers.value? ctx .educationAbroad).bind Value.toBool?).getD false
    calResidencyFlag := legacy.bind fun bag => bag.getText? .calResidencyFlag
    roles := mergeRoles ((legacy.map AttributeBag.roles).getD ∅)
      ((answers.visibleModern? ctx).map AttributeBag.roles)
    isCampusSolutionsStudent := isCampusSolutionsStudent answers.modern
    sisProfileVisible := sisProfileVisible ctx answers.modern
    noStudentId := studentId.isNone }

end CampusView
