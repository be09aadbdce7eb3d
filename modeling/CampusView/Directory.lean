import CampusView.Role
import CampusView.Text.Blank
import CampusView.Text.Split
import CampusView.Text.Quoted
import CampusView.Time.Format

/-!
# Records of the campus directory

The directory gives affiliations as flat strings in four categories, `CATEGORY-TYPE-name` for a
type and `CATEGORY-STATUS-EXPIRED` for the end, and with them lists of expiration times and of
groups.

* A category that is not marked as expired is active.
* One that is marked stays active while it has a type and its latest expiration is unknown or in
  the future.
* An active category grants the roles of its types. A student category that is not active makes a
  former student.
* A group of the official student lists grants its role in any case.
-/

namespace CampusView

open Json Time

/-- A person's record in the directory. -/
structure DirectoryRecord where
  affiliations : List String := []
  groups : List String := []
  affiliateExpirations : List String := []
  employeeExpirations : List String := []
  studentExpirations : List String := []
deriving DecidableEq, Repr

/-- The members of `DirectoryRecord`. -/
def DirectoryRecord.layout : Layout := [
  ("affiliations", .list .text),
  ("groups", .list .text),
  ("affiliate_exp_dates", .list .text),
  ("employee_exp_dates", .list .text),
  ("student_exp_dates", .list .text)]

instance : Encode DirectoryRecord := ⟨fun d => .object [
  ("affiliations", encode d.affiliations),
  ("groups", encode d.groups),
  ("affiliate_exp_dates", encode d.affiliateExpirations),
  ("employee_exp_dates", encode d.employeeExpirations),
  ("student_exp_dates", encode d.studentExpirations)]⟩

instance : Decode DirectoryRecord := ⟨.record DirectoryRecord.layout, fun v => do
  let r ← v.record? DirectoryRecord.layout
  return {
    affiliations := ← r.getD? "affiliations" []
    groups := ← r.getD? "groups" []
    affiliateExpirations := ← r.getD? "affiliate_exp_dates" []
    employeeExpirations := ← r.getD? "employee_exp_dates" []
    studentExpirations := ← r.getD? "student_exp_dates" [] }⟩

/-! ### Expiration times -/

/-- An expiration time that cannot be read. -/
structure InvalidTimestamp where
  raw : String
deriving DecidableEq, Repr

/-- What is said about an expiration time that cannot be read. -/
def InvalidTimestamp.message (e : InvalidTimestamp) : String :=
  "invalid directory timestamp: " ++ Text.quoted e.raw

/-- The instant of an expiration time such as `20140901145959Z`. -/
def parseExpiration (raw : String) : Except InvalidTimestamp Instant :=
  match Instant.parseCompact? (Text.trim raw) with
  | some at_ => .ok at_
  | none => .error ⟨raw⟩

/-- The later of two instants. -/
def later (a b : Instant) : Instant := if a ≤ b then b else a

/-- The latest of the expiration times that can be read. -/
def latestExpiration? (raws : List String) : Option Instant :=
  match raws.filterMap fun raw => (parseExpiration raw).toOption with
  | [] => none
  | t :: ts => some (ts.foldl later t)

/-! ### Categories -/

/-- The categories of directory affiliations. -/
inductive Category
  | student
  | employee
  | affiliate
  | guest
deriving DecidableEq, Repr

namespace Category

/-- The categories in order. -/
def all : List Category := [student, employee, affiliate, guest]

/-- What the affiliations of a category start with. -/
def label : Category → String
  | student => "STUDENT"
  | employee => "EMPLOYEE"
  | affiliate => "AFFILIATE"
  | guest => "GUEST"

/-- The expiration times of a category. Guests have none. -/
def expirations (record : DirectoryRecord) : Category → List String
  | student => record.studentExpirations
  | employee => record.employeeExpirations
  | affiliate => record.affiliateExpirations
  | guest => []

/-- The roles that a type of a category grants. -/
def rolesOfType : Category → String → List Role
  | student, "REGISTERED" => [.student, .registered]
  | student, _ => [.student]
  | employee, "STAFF" => [.staff]
  | employee, "ACADEMIC" => [.faculty]
  | affiliate, "CONCURR ENROLL" => [.concurrentEnrollmentStudent]
  | guest, _ => [.guest]
  | _, _ => []

/-- The types that a record has in a category. -/
def types (record : DirectoryRecord) (c : Category) : List String :=
  record.affiliations.filterMap fun a => Text.stripStart? (c.label ++ "-TYPE-") (Text.trim a)

/-- A record marks a category as expired. -/
def isMarkedExpired (record : DirectoryRecord) (c : Category) : Bool :=
  record.affiliations.any fun a => Text.trim a == c.label ++ "-STATUS-EXPIRED"

/-- A category is active at `now`. -/
def isActiveAt (record : DirectoryRecord) (now : Instant) (c : Category) : Bool :=
  !c.isMarkedExpired record ||
    (!(c.types record).isEmpty &&
      (latestExpiration? (c.expirations record)).all fun t => decide (now < t))

/-- The roles of a category at `now`. -/
def rolesAt (record : DirectoryRecord) (now : Instant) (c : Category) : List Role :=
  if c.isActiveAt record now then (c.types record).flatMap c.rolesOfType
  else if c = student then [.exStudent]
  else []

end Category

/-! ### Groups -/

/-- The role of a population of the official student lists. -/
def roleOfPopulation? : String → Option Role
  | "all" => some .student
  | "undergrad" => some .undergrad
  | "graduate" => some .graduate
  | "law" => some .law
  | _ => none

/-- The population of a group of the official student lists, such as the `law` of
`cn=edu:official:students:law,ou=groups`. -/
def populationOf? (group : String) : Option String := do
  let name := String.ofList ((Text.splitOn ',' group.toList).headD [])
  let cn ← Text.stripStart? "cn=" (Text.trim name)
  match (Text.splitOn ':' cn.toList).reverse.map String.ofList with
  | population :: "students" :: "official" :: _ => some population
  | _ => none

/-- The roles of a person in these groups. -/
def classifyGroups (groups : List String) : RoleSet :=
  RoleSet.ofList (groups.filterMap fun g => (populationOf? g).bind roleOfPopulation?)

/-- The roles of a person with this record at `now`. -/
def classifyDirectoryAt (record : DirectoryRecord) (now : Instant) : RoleSet :=
  (RoleSet.ofList (Category.all.flatMap (Category.rolesAt record now))).extendGranted
    (classifyGroups record.groups)

end CampusView
