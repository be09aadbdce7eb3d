import CampusView.Delegation

/-!
# The academics page

The academics feed of a student holds semesters with their classes, grade point averages and more.
Most of it is passed on as it comes: each part keeps the members it does not know in `extra`.

* Reading is lenient. A member of the wrong shape counts as absent, and an item that is none is
  left out.
* `forDelegate` removes what a delegate never sees, and the grades if the delegate may not see
  them. What is removed is gone from the value and so from every text written of it.
-/

namespace CampusView

open Json

/-- A section of a class, or an entry of its transcript. -/
structure Section where
  grade : Option Value := none
  extra : Members := []

/-- A class of a semester. -/
structure Course where
  sections : List Section := []
  transcript : Option (List Section) := none
  extra : Members := []

/-- A semester. -/
structure Semester where
  slug : Option Value := none
  classes : List Course := []
  extra : Members := []

/-- Grade point averages and units. -/
structure GpaUnits where
  cumulativeGpa : Option Value := none
  extra : Members := []

/-- The academics feed of a student. -/
structure AcademicsFeed where
  semesters : List Semester := []
  gpaUnits : Option GpaUnits := none
  examSchedule : Option Value := none
  transitionTerm : Option Value := none
  regblocks : Option Value := none
  requirements : Option Value := none
  otherSiteMemberships : Option Value := none
  filteredForDelegate : Bool := false

instance : Inhabited AcademicsFeed := ⟨{}⟩

/-! ### Writing -/

/-- A member that is left out when there is no value. -/
def optionalMember (name : String) (v : Option Value) : Members :=
  match v with
  | some v => [(name, v)]
  | none => []

instance : Encode Section := ⟨fun s => .object (optionalMember "grade" s.grade ++ s.extra)⟩

instance : Encode Course := ⟨fun c => .object (
  ("sections", encode c.sections) ::
    optionalMember "transcript" (c.transcript.map encode) ++ c.extra)⟩

instance : Encode Semester := ⟨fun s => .object (
  optionalMember "slug" s.slug ++ ("classes", encode s.classes) :: s.extra)⟩

instance : Encode GpaUnits :=
  ⟨fun g => .object (optionalMember "cumulativeGpa" g.cumulativeGpa ++ g.extra)⟩

instance : Encode AcademicsFeed := ⟨fun f => .object (
  ("semesters", encode f.semesters) ::
    optionalMember "gpaUnits" (f.gpaUnits.map encode) ++
    optionalMember "examSchedule" f.examSchedule ++
    optionalMember "transitionTerm" f.transitionTerm ++
    optionalMember "regblocks" f.regblocks ++
    optionalMember "requirements" f.requirements ++
    optionalMember "otherSiteMemberships" f.otherSiteMemberships ++
    optionalMember "filteredForDelegate"
      (if f.filteredForDelegate then some (.bool true) else none))⟩

/-! ### Reading -/

/-- The value of a member. A null is none. -/
def presentMember? (ms : Members) (name : String) : Option Value :=
  (ms.lookup name).filter fun v => !v.isNull

/-- The items of an array that can be read. Anything but an array is none. -/
def readableItems? [Decode α] (v : Value) : Option (List α) :=
  v.items?.map fun xs => xs.filterMap decode?

instance : Decode Section := ⟨.any, fun v => v.members?.map fun ms =>
  { grade := presentMember? ms "grade", extra := Members.without ["grade"] ms }⟩

instance : Decode Course := ⟨.any, fun v => v.members?.map fun ms =>
  { sections := ((ms.lookup "sections").bind readableItems?).getD []
    transcript := (ms.lookup "transcript").bind readableItems?
    extra := Members.without ["sections", "transcript"] ms }⟩

instance : Decode Semester := ⟨.any, fun v => v.members?.map fun ms =>
  { slug := presentMember? ms "slug"
    classes := ((ms.lookup "classes").bind readableItems?).getD []
    extra := Members.without ["slug", "classes"] ms }⟩

instance : Decode GpaUnits := ⟨.any, fun v => v.members?.map fun ms =>
  { cumulativeGpa := presentMember? ms "cumulativeGpa"
    extra := Members.without ["cumulativeGpa"] ms }⟩

/-- The members of `AcademicsFeed`. -/
def AcademicsFeed.layout : Layout := [
  ("semesters", .any),
  ("gpaUnits", .any),
  ("examSchedule", .any),
  ("transitionTerm", .any),
  ("regblocks", .any),
  ("requirements", .any),
  ("otherSiteMemberships", .any),
  ("filteredForDelegate", .any)]

instance : Decode AcademicsFeed := ⟨.record AcademicsFeed.layout, fun v => do
  let r ← v.record? AcademicsFeed.layout
  return {
    semesters := ((r.find? "semesters").bind readableItems?).getD []
    gpaUnits := (r.find? "gpaUnits").bind decode?
    examSchedule := ← r.getD? "examSchedule" none
    transitionTerm := ← r.getD? "transitionTerm" none
    regblocks := ← r.getD? "regblocks" none
    requirements := ← r.getD? "requirements" none
    otherSiteMemberships := ← r.getD? "otherSiteMemberships" none
    filteredForDelegate := ← r.getD? "filteredForDelegate" false }⟩

/-! ### Redaction -/

/-- The section without its grade. -/
def Section.withoutGrade (s : Section) : Section := { s with grade := none }

/-- The class without its grades. -/
def Course.withoutGrades (c : Course) : Course :=
  { c with
    sections := c.sections.map Section.withoutGrade
    transcript := c.transcript.map fun entries => entries.map Section.withoutGrade }

/-- The semester without the grades of its classes. -/
def Semester.withoutGrades (s : Semester) : Semester :=
  { s with classes := s.classes.map Course.withoutGrades }

/-- The semester without the address of its page. -/
def Semester.withoutSlug (s : Semester) : Semester := { s with slug := none }

/-- The averages without the cumulative one. -/
def GpaUnits.withoutCumulative (g : GpaUnits) : GpaUnits := { g with cumulativeGpa := none }

namespace AcademicsFeed

/-- The feed without grades and without the cumulative grade point average. -/
def withoutGrades (f : AcademicsFeed) : AcademicsFeed :=
  { f with
    semesters := f.semesters.map Semester.withoutGrades
    gpaUnits := f.gpaUnits.map GpaUnits.withoutCumulative }

/-- The feed as a delegate with these privileges sees it. -/
def forDelegate (f : AcademicsFeed) (p : PrivilegeSet) : AcademicsFeed :=
  let open_ : AcademicsFeed := { f with
    semesters := f.semesters.map Semester.withoutSlug
    regblocks := none
    requirements := none
    otherSiteMemberships := none
    filteredForDelegate := true }
  if p.viewGrades then open_ else open_.withoutGrades

/-- The feed as its viewer sees it, a delegate if there are privileges. None for a delegate who
may see neither enrollments nor grades. -/
def compose? (f : AcademicsFeed) : Option PrivilegeSet → Option AcademicsFeed
  | none => some f
  | some p => if p.grantsAcademics then some (f.forDelegate p) else none

end AcademicsFeed

end CampusView
