import CampusView.Json.Codec

/-!
# Delegated access

A student may let a delegate, such as a parent, see parts of their record. `PrivilegeSet` is what
one student lets one delegate see; nothing is the default.
-/

namespace CampusView

open Json

/-- What a student lets a delegate see. -/
structure PrivilegeSet where
  financial : Bool := false
  viewEnrollments : Bool := false
  viewGrades : Bool := false
  phone : Bool := false
deriving DecidableEq, Repr, Inhabited

namespace PrivilegeSet

/-- Nothing. -/
def none : PrivilegeSet := {}

/-- Some part of the student's pages is open. Talking on the phone alone opens none. -/
def grantsViewAccess (p : PrivilegeSet) : Bool := p.financial || p.viewEnrollments || p.viewGrades

/-- Some part of the academics page is open. -/
def grantsAcademics (p : PrivilegeSet) : Bool := p.viewEnrollments || p.viewGrades

/-- The members of `PrivilegeSet`. -/
def layout : Layout :=
  [("financial", .any), ("viewEnrollments", .any), ("viewGrades", .any), ("phone", .any)]

end PrivilegeSet

instance : Encode PrivilegeSet := ⟨fun p => .object [
  ("financial", .bool p.financial),
  ("viewEnrollments", .bool p.viewEnrollments),
  ("viewGrades", .bool p.viewGrades),
  ("phone", .bool p.phone)]⟩

instance : Decode PrivilegeSet := ⟨.record PrivilegeSet.layout, fun v => do
  let r ← v.record? PrivilegeSet.layout
  return {
    financial := ← r.getD? "financial" false
    viewEnrollments := ← r.getD? "viewEnrollments" false
    viewGrades := ← r.getD? "viewGrades" false
    phone := ← r.getD? "phone" false }⟩

/-- A student who gave a delegate access. -/
structure DelegateStudent where
  campusSolutionsId : String
  uid : Option String := none
  fullName : Option String := none
  privileges : PrivilegeSet := {}
deriving DecidableEq, Repr

namespace DelegateStudent

/-- The members of `DelegateStudent`. -/
def layout : Layout := [
  ("campusSolutionsId", .text),
  ("uid", .optional .text),
  ("fullName", .optional .text),
  ("privileges", .record PrivilegeSet.layout)]

/-- The members of a student as they are written. -/
def members (s : DelegateStudent) : Members := [
  ("campusSolutionsId", .string s.campusSolutionsId),
  ("uid", encode s.uid),
  ("fullName", encode s.fullName),
  ("privileges", encode s.privileges)]

/-- A student as shown to the delegate, with the answer whether there is anything to see. -/
def view (s : DelegateStudent) : Value :=
  .object (s.members ++ [("delegateAccess", .bool s.privileges.grantsViewAccess)])

end DelegateStudent

instance : Encode DelegateStudent := ⟨fun s => .object s.members⟩

instance : Decode DelegateStudent := ⟨.record DelegateStudent.layout, fun v => do
  let r ← v.record? DelegateStudent.layout
  return {
    campusSolutionsId := ← r.get? "campusSolutionsId"
    uid := ← r.getD? "uid" none
    fullName := ← r.getD? "fullName" none
    privileges := ← r.getD? "privileges" {} }⟩

/-- What the student with this id lets the delegate see, by the first entry for that id. -/
def privilegesFor? (students : List DelegateStudent) (campusSolutionsId : String) :
    Option PrivilegeSet :=
  (students.find? fun s => s.campusSolutionsId == campusSolutionsId).map DelegateStudent.privileges

end CampusView
