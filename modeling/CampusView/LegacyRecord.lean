import CampusView.Attribute
import CampusView.Directory

/-!
# Legacy records

The legacy system reports a person as one object. Members that are named for a field are its
values. Roles come from a map of flags, and the directory entry can only add to them.
-/

namespace CampusView.LegacyRecord

open Json Time

/-- The directory entry of a record, if there is one and it can be read. -/
def directory? (record : Members) : Option DirectoryRecord :=
  (record.lookup "directory").bind decode?

/-- The roles that the map of flags records. -/
def ownRoles (record : Members) : RoleSet := ((record.lookup "roles").map RoleSet.ofValue).getD ∅

/-- The roles of a record at `now`. -/
def rolesAt (record : Members) (now : Instant) : RoleSet :=
  match directory? record with
  | some entry => (ownRoles record).extendGranted (classifyDirectoryAt entry now)
  | none => ownRoles record

/-- What a record says about a person at `now`. Values are not checked. -/
def bagAt (record : Members) (now : Instant) : AttributeBag where
  value? field := record.lookup field.name
  roles := rolesAt record now

end CampusView.LegacyRecord
