import CampusView.Role
import CampusView.Text.Blank

/-!
# Attributes of a person

A campus system reports a person's attributes as an `AttributeBag`: raw JSON values by field, and
roles. Values are not trusted. `Field.format` says what a value has to be, and `validate` checks
it.
-/

namespace CampusView

open Json

/-- The attributes a system may report. -/
inductive Field
  | personName
  | firstName
  | lastName
  | givenName
  | familyName
  | studentId
  | campusSolutionsId
  | delegateUserId
  | emailAddress
  | officialBmailAddress
  | educationAbroad
  | calResidencyFlag
deriving DecidableEq, Repr

/-- What a value has to be. -/
inductive Format
  /-- A text that is not blank. -/
  | string
  /-- A text of decimal digits. -/
  | numericString
  /-- A flag. -/
  | boolean
deriving DecidableEq, Repr

namespace Format

/-- The name of a format. -/
def name : Format → String
  | string => "string"
  | numericString => "numeric_string"
  | boolean => "boolean"

/-- The value is of the format. -/
def admits : Format → Value → Bool
  | string, .string s => !Text.isBlankText s
  | numericString, .string s => !s.isEmpty && s.toList.all Char.isDigit
  | boolean, .bool _ => true
  | _, _ => false

end Format

namespace Field

/-- The fields in order. -/
def all : List Field :=
  [personName, firstName, lastName, givenName, familyName, studentId, campusSolutionsId,
    delegateUserId, emailAddress, officialBmailAddress, educationAbroad, calResidencyFlag]

theorem mem_all (f : Field) : f ∈ all := by cases f <;> decide

/-- The name of a field. -/
def name : Field → String
  | personName => "person_name"
  | firstName => "first_name"
  | lastName => "last_name"
  | givenName => "given_name"
  | familyName => "family_name"
  | studentId => "student_id"
  | campusSolutionsId => "campus_solutions_id"
  | delegateUserId => "delegate_user_id"
  | emailAddress => "email_address"
  | officialBmailAddress => "official_bmail_address"
  | educationAbroad => "education_abroad"
  | calResidencyFlag => "cal_residency_flag"

/-- The field of that name. -/
def ofName? (s : String) : Option Field := all.find? fun f => f.name == s

/-- What the values of a field have to be. -/
def format : Field → Format
  | studentId => .numericString
  | educationAbroad => .boolean
  | _ => .string

end Field

/-- A value that is not what its field wants. -/
structure InvalidAttribute where
  field : Field
  got : Value

/-- What is said about a value that is not what its field wants. -/
def InvalidAttribute.message (e : InvalidAttribute) : String :=
  "attribute " ++ e.field.name ++ " failed validation: expected a " ++ e.field.format.name ++
    ", got " ++ e.got.toText

/-- Check a value against the format of its field. -/
def validate (field : Field) (value : Value) : Except InvalidAttribute Value :=
  if field.format.admits value then .ok value else .error ⟨field, value⟩

/-- What one system reports about a person. -/
structure AttributeBag where
  /-- The reported value of a field. -/
  value? : Field → Option Value
  roles : RoleSet

namespace AttributeBag

/-- Nothing reported. -/
def empty : AttributeBag := ⟨fun _ => none, ∅⟩

instance : Inhabited AttributeBag := ⟨empty⟩

/-- The bag with a field changed. -/
def set (b : AttributeBag) (f : Field) (v : Value) : AttributeBag :=
  { b with value? := fun g => if g = f then some v else b.value? g }

/-- The value of a field. A null is none. -/
def get? (b : AttributeBag) (f : Field) : Option Value := (b.value? f).filter fun v => !v.isNull

/-- The value of a field, if it is a text. -/
def getText? (b : AttributeBag) (f : Field) : Option String := (b.get? f).bind Value.toText?

/-- The reported values with the names of their fields, in the order of the fields. -/
def members (b : AttributeBag) : Members :=
  Field.all.filterMap fun f => (b.value? f).map fun v => (f.name, v)

end AttributeBag

/-- The members of `AttributeBag`. -/
def AttributeBag.layout : Layout := [("fields", .any), ("roles", .any)]

/-- The values of an object whose members are all named for fields. -/
def decodeFields? : Value → Option (Field → Option Value)
  | .object ms =>
    if ms.all fun m => (Field.ofName? m.1).isSome then some fun f => ms.lookup f.name else none
  | _ => none

instance : Encode AttributeBag :=
  ⟨fun b => .object [("fields", .object b.members), ("roles", encode b.roles)]⟩

instance : Decode AttributeBag := ⟨.record AttributeBag.layout, fun v => do
  let r ← v.record? AttributeBag.layout
  let fields ← r.getD? "fields" (Value.object [])
  return { value? := ← decodeFields? fields, roles := ← r.getD? "roles" ∅ }⟩

end CampusView
