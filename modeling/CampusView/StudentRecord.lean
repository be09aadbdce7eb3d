import CampusView.Affiliation
import CampusView.Attribute
import CampusView.Identity
import CampusView.Text.Split

/-!
# Student records

The modern system reports a student with lists of names, emails and affiliations.

* Given and family name are those of the primary name, the first one of type `PRI`.
* The names to be shown are all those of one name: the first one of type `PRF`, which the student
  prefers, or the primary one.
* The last primary email with an address is the email, the last one of type `CAMP` the official
  email.
* Ids come from the crosswalk, and roles from the affiliations.
-/

namespace CampusView.StudentRecord

open Json Time

/-- The record itself, which may come wrapped as the member `student` of an object. -/
def unwrap (record : Value) : Value := (record.get? "student").getD record

/-- The items of a member; none unless it is an array. -/
def items (student : Value) (name : String) : List Value :=
  ((student.get? name).bind Value.items?).getD []

/-- The item has this type code. The case of ASCII letters does not matter. -/
def hasType (code : String) (item : Value) : Bool :=
  (do (← (← item.get? "type").get? "code").toText?).any (Text.equalIgnoringCase code)

/-- The first name of a type. -/
def nameOfType? (student : Value) (code : String) : Option Value :=
  (items student "names").find? (hasType code)

/-- The primary name. -/
def primaryName? (student : Value) : Option Value := nameOfType? student "PRI"

/-- The name to be shown. -/
def shownName? (student : Value) : Option Value :=
  (nameOfType? student "PRF").or (primaryName? student)

/-- The address of the last email of some kind that has one. -/
def lastAddress? (student : Value) (kind : Value → Bool) : Option Value :=
  (((items student "emails").filter kind).filterMap fun e => e.get? "emailAddress").getLast?

/-- The email is marked as primary. -/
def isPrimary (email : Value) : Bool := (email.get? "primary").any fun v => v.toBool? == some true

/-- The affiliations of a record. -/
def affiliations (student : Value) : List Affiliation :=
  ((student.get? "affiliations").map Affiliation.ofArray).getD []

/-- The value of a field. Values are not checked. -/
def value? (student : Value) (ids : Option CorrelatedIds) : Field → Option Value
  | .givenName => (primaryName? student).bind (Value.get? "givenName")
  | .familyName => (primaryName? student).bind (Value.get? "familyName")
  | .firstName => (shownName? student).bind (Value.get? "givenName")
  | .lastName => (shownName? student).bind (Value.get? "familyName")
  | .personName => (shownName? student).bind (Value.get? "formattedName")
  | .emailAddress => lastAddress? student isPrimary
  | .officialBmailAddress => lastAddress? student (hasType "CAMP")
  | .studentId => (ids.bind CorrelatedIds.studentId).map .string
  | .campusSolutionsId => (ids.bind CorrelatedIds.campusSolutionsId).map .string
  | .delegateUserId => (ids.bind CorrelatedIds.delegateUserId).map .string
  | .educationAbroad | .calResidencyFlag => none

/-- What a record says about a student on a day. -/
def bagOn (student : Value) (ids : Option CorrelatedIds) (today : Date) : AttributeBag where
  value? := value? student ids
  roles := classifyAt (affiliations student) today

end CampusView.StudentRecord
