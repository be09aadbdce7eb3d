import CampusView.Role
import CampusView.Text.Blank
import CampusView.Text.Upper
import CampusView.Time.Format

/-!
# Affiliations of the student record

The student record lists a person's affiliations, each with a type, a status and dates.
`classifyAt` derives roles from them.

* An affiliation counts only if it has both codes, and is *active* on a day if its status is `ACT`
  and it has not ended before that day.
* An active affiliation grants the role of its type.
* A person with a `STUDENT` affiliation is a student if one of them is active, and else a former
  student.
* A bare `APPLICANT` grants nothing: the application is still in process.
-/

namespace CampusView

open Json Time

/-- A code and what it stands for. -/
structure Code where
  code : Option String := none
  description : Option String := none
deriving DecidableEq, Repr

/-- One affiliation of the student record. -/
structure Affiliation where
  type : Option Code := none
  status : Option Code := none
  fromDate : Option String := none
  toDate : Option String := none
deriving DecidableEq, Repr

/-- The members of `Code`. -/
def Code.layout : Layout := [("code", .optional .text), ("description", .optional .text)]

instance : Encode Code :=
  ⟨fun c => .object [("code", encode c.code), ("description", encode c.description)]⟩

instance : Decode Code := ⟨.record Code.layout, fun v => do
  let r ← v.record? Code.layout
  return { code := ← r.getD? "code" none, description := ← r.getD? "description" none }⟩

/-- The members of `Affiliation`. -/
def Affiliation.layout : Layout := [
  ("type", .optional (.record Code.layout)),
  ("status", .optional (.record Code.layout)),
  ("fromDate", .optional .text),
  ("toDate", .optional .text)]

instance : Encode Affiliation := ⟨fun a => .object [
  ("type", encode a.type),
  ("status", encode a.status),
  ("fromDate", encode a.fromDate),
  ("toDate", encode a.toDate)]⟩

instance : Decode Affiliation := ⟨.record Affiliation.layout, fun v => do
  let r ← v.record? Affiliation.layout
  return {
    type := ← r.getD? "type" none
    status := ← r.getD? "status" none
    fromDate := ← r.getD? "fromDate" none
    toDate := ← r.getD? "toDate" none }⟩

/-- The code without blanks at its ends and in upper case; a blank code is none. -/
def Code.normalized? (c : Code) : Option String :=
  (c.code.filter fun s => !Text.isBlankText s).map fun s => Text.upper (Text.trim s)

namespace Affiliation

/-- The status of an active affiliation. -/
def activeStatus : String := "ACT"

/-- The type code. -/
def typeCode? (a : Affiliation) : Option String := a.type.bind Code.normalized?

/-- The status code. -/
def statusCode? (a : Affiliation) : Option String := a.status.bind Code.normalized?

/-- The last day, if one is given as a date or as an instant in RFC 3339. -/
def endDate? (a : Affiliation) : Option Date :=
  a.toDate.bind fun s =>
    let s := Text.trim s
    (Date.parse? s).or do
      let stamp ← Stamp.parse? s
      let _ ← stamp.instant?
      return stamp.date

/-- The affiliations of an array. Items that are none are left out, and anything but an array is
empty. -/
def ofArray (v : Value) : List Affiliation := (v.items?.getD []).filterMap decode?

/-- The affiliation has the active status and does not end before `today`. -/
def isActiveOn (today : Date) (a : Affiliation) : Bool :=
  a.statusCode? == some activeStatus && a.endDate?.all fun last => decide (today ≤ last)

/-- The type code of an affiliation with both codes, and whether it is active. -/
def entry? (today : Date) (a : Affiliation) : Option (String × Bool) := do
  let code ← a.typeCode?
  let _ ← a.statusCode?
  return (code, a.isActiveOn today)

end Affiliation

/-- The role that an active affiliation of this type grants. Being a student is decided apart. -/
def roleOfType? : String → Option Role
  | "UNDERGRAD" => some .undergrad
  | "GRADUATE" => some .graduate
  | "LAW" => some .law
  | "INSTRUCTOR" => some .faculty
  | "ADVISOR" => some .advisor
  | "ADMT_UX" => some .applicant
  | _ => none

/-- The roles of a person with these affiliations on a day. -/
def classifyAt (affiliations : List Affiliation) (today : Date) : RoleSet :=
  let entries := affiliations.filterMap (Affiliation.entry? today)
  let granted := entries.filterMap fun (code, active) => if active then roleOfType? code else none
  RoleSet.ofList <|
    if entries.contains ("STUDENT", true) then .student :: granted
    else if entries.contains ("STUDENT", false) then .exStudent :: granted
    else granted

/-- Some application has the active status. -/
def applicantInProcess (affiliations : List Affiliation) : Bool :=
  affiliations.any fun a =>
    a.typeCode? == some "APPLICANT" && a.statusCode? == some Affiliation.activeStatus

end CampusView
