import CampusView.Account
import CampusView.Delegation
import CampusView.Role
import CampusView.Session

/-!
# Tabs

Which tabs a page shows. `privileges` is what a delegate may see, and none outside a delegate's
view: a tab that privileges govern is shown to a delegate only with the privilege for it.
-/

namespace CampusView

/-- The academics tab is shown. -/
def hasAcademicsTab (roles : RoleSet) (privileges : Option PrivilegeSet) (history : CourseHistory) :
    Bool :=
  privileges.all PrivilegeSet.grantsAcademics &&
    (roles.get .student || roles.get .faculty || history.hasInstructorHistory ||
      history.hasStudentHistory)

/-- Grades are shown. -/
def canViewGrades (roles : RoleSet) (privileges : Option PrivilegeSet) (history : CourseHistory) :
    Bool :=
  hasAcademicsTab roles privileges history && privileges.all PrivilegeSet.viewGrades

/-- The financials tab is shown. -/
def hasFinancialsTab (roles : RoleSet) (privileges : Option PrivilegeSet) : Bool :=
  privileges.all PrivilegeSet.financial && (roles.get .student || roles.get .exStudent)

/-- The user is a delegate of some student. -/
def isDelegateUser (auth : Authentication) (students : List DelegateStudent) : Bool :=
  auth.isDirect && !students.isEmpty

/-- The toolbox tab is shown. -/
def hasToolboxTab (auth : Authentication) (actor : UserAuth) (roles : RoleSet)
    (delegateUser : Bool) : Bool :=
  auth.isDirect && actor.active &&
    (actor.canAdministrate || actor.isViewer || delegateUser || roles.get .advisor)

end CampusView
