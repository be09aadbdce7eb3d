import CampusView.Academics

/-!
# Redaction

What a delegate does not see of an academics page, said of the JSON form of the page.

* A `Path` leads into a value, and `Value.delete` removes the members that it ends at. Everything
  else stays where it is.
* `hiddenPaths` lists the paths that are hidden from a delegate, and `redact` deletes them all.
* `AcademicsFeed.named` gives the members of a page that was written as an array their names.
-/

namespace CampusView

namespace Json

/-- A step into a value. -/
inductive Step
  /-- To the member of this name. -/
  | member (name : String)
  /-- To every item. -/
  | each
deriving DecidableEq, Repr

/-- A way into a value. -/
abbrev Path := List Step

/-- Change the members of one name. -/
def Members.modify (name : String) (f : Value → Value) (ms : Members) : Members :=
  ms.map fun m => (m.1, if m.1 = name then f m.2 else m.2)

/-- The value without the members at the end of a path. -/
def Value.delete : Path → Value → Value
  | [.member k], .object ms => .object (Members.without [k] ms)
  | .member k :: path, .object ms => .object (Members.modify k (Value.delete path) ms)
  | .each :: path, .array xs => .array (xs.map (Value.delete path))
  | _, v => v

end Json

open Json

/-- The paths that no delegate sees. -/
def delegatePaths : List Path := [
  [.member "regblocks"],
  [.member "requirements"],
  [.member "otherSiteMemberships"],
  [.member "semesters", .each, .member "slug"]]

/-- The paths that end at a grade or at the cumulative grade point average. -/
def gradePaths : List Path := [
  [.member "semesters", .each, .member "classes", .each, .member "sections", .each,
    .member "grade"],
  [.member "semesters", .each, .member "classes", .each, .member "transcript", .each,
    .member "grade"],
  [.member "gpaUnits", .member "cumulativeGpa"]]

/-- The paths that are hidden from a delegate with these privileges. -/
def hiddenPaths (p : PrivilegeSet) : List Path :=
  if p.viewGrades then delegatePaths else delegatePaths ++ gradePaths

/-- A page without what is hidden from a delegate with these privileges. -/
def redact (p : PrivilegeSet) (v : Value) : Value :=
  (hiddenPaths p).foldl (fun v path => v.delete path) v

/-- A page with the names of its members. A page that was written as an array has them in the order
of declaration. -/
def AcademicsFeed.named : Value → Value
  | .array xs => .object ((AcademicsFeed.layout.map Prod.fst).zip xs)
  | v => v

end CampusView
