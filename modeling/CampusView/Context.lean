import CampusView.Inquiry
import CampusView.Settings

/-!
# Requests, and what delegates may see

What a delegate may see of a student is settled by two campus systems: the crosswalk names the
student, and the list of the delegate's students grants privileges by that name. `Resolution.of`
puts the two answers together, and whatever fails or is missing grants nothing.

A `Context` belongs to one request. It remembers the resolution, so that all parts of a request
see the same one.
-/

namespace CampusView

open Json

/-- What a delegate may see of a student. -/
structure Resolution where
  privileges : PrivilegeSet := {}
  /-- Nothing is granted because a campus system failed. -/
  degraded : Bool := false
deriving DecidableEq, Repr

instance : Encode Resolution :=
  ⟨fun r => .object [("privileges", encode r.privileges), ("degraded", .bool r.degraded)]⟩

/-- What a delegate with these students may see of the student with these ids. -/
def Resolution.of (ids : Lookup CorrelatedIds) (students : Lookup (List DelegateStudent)) :
    Resolution :=
  let denied : Resolution := { degraded := ids.isErrored || students.isErrored }
  match ids.found?.bind CorrelatedIds.campusSolutionsId, students with
  | some id, .found students => { privileges := (privilegesFor? students id).getD .none }
  | _, _ => denied

/-- Ask what a delegate may see of a student. While delegates are switched off, nothing. -/
def resolve (settings : Settings) (delegate student : Uid) : Inquiry Resolution :=
  if settings.flags.csDelegatedAccess then
    Resolution.of <$> Inquiry.ask .crosswalk student <*> Inquiry.ask .delegateStudents delegate
  else pure {}

/-- One request. -/
structure Context where
  auth : Authentication
  /-- What a delegate may see, once that is settled. None outside a delegate's view. -/
  settled : Option (Option Resolution) := none

namespace Context

/-- Ask what the delegate of a request may see, unless that is settled. -/
def resolution (ctx : Context) (settings : Settings) : Inquiry (Option Resolution) :=
  match ctx.settled with
  | some r => pure r
  | none =>
    match ctx.auth.delegateViewer, ctx.auth.userId with
    | some delegate, some student => some <$> resolve settings delegate student
    | _, _ => pure none

/-- Settle what the delegate of a request may see. -/
def settle (ctx : Context) (r : Option Resolution) : Context := { ctx with settled := some r }

end Context

end CampusView
