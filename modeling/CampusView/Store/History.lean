import CampusView.Store
import Mathlib.Data.List.DropRight

/-!
# Accesses of the store

`answers` gives what a sequence of accesses of one store is answered. `expected` says from the
accesses before each of them what it should be answered: the preferred name of a user is the one
that was set last, the first login is the one that was recorded first, and both count only since the
data of the user was last deleted.
-/

namespace CampusView.Store

open Time

/-! ### Accesses -/

/-- What is done with a store. -/
inductive Access
  | get (uid : Uid)
  | setName (uid : Uid) (name : Option String)
  | recordLogin (uid : Uid) (at_ : Instant)
  | delete (uid : Uid)
deriving DecidableEq, Repr

/-- What comes back from a store. -/
inductive Answer
  | found (data : Except StoreFault (Option UserData))
  | written (data : Except StoreFault UserData)
  | deleted (existed : Bool)

/-- The data could not be read. -/
def Answer.IsFault : Answer → Prop
  | found data => ∃ fault, data = .error fault
  | written data => ∃ fault, data = .error fault
  | deleted _ => False

namespace Access

/-- Whose data is accessed. -/
def uid : Access → Uid
  | get uid | setName uid _ | recordLogin uid _ | delete uid => uid

/-- What comes back, and the store after the access. -/
def run (s : Store) : Access → Answer × Store
  | get uid => (.found (s.get uid), s)
  | setName uid name => (.written (s.setName uid name).1, (s.setName uid name).2)
  | recordLogin uid at_ => (.written (s.recordLogin uid at_).1, (s.recordLogin uid at_).2)
  | delete uid => (.deleted (s.delete uid).1, (s.delete uid).2)

/-- What becomes of the row of the user. -/
def onRow : Access → Option StoredRow → Option StoredRow
  | get _, row => row
  | setName _ name, row => some { row.getD {} with preferredName := name }
  | recordLogin _ at_, row =>
    let row := row.getD {}
    some { row with firstLogin := row.firstLogin.or (some at_.toOffsetText) }
  | delete _, _ => none

/-- An access changes the row of the user alone. -/
theorem row?_run (s : Store) (a : Access) (u : Uid) :
    (a.run s).2.row? u = if u = a.uid then a.onRow (s.row? u) else s.row? u := by
  by_cases hu : u = a.uid
  · rw [if_pos hu, hu]
    cases a <;> simp [run, onRow, uid]
  · rw [if_neg hu]
    cases a with
    | get uid => rfl
    | _ => exact if_neg hu

/-- The data is written. -/
def isWrite : Access → Bool
  | setName .. | recordLogin .. => true
  | get _ | delete _ => false

/-- The preferred name that is set or cleared. -/
def name? : Access → Option (Option String)
  | setName _ name => some name
  | _ => none

/-- The instant that is recorded. -/
def login? : Access → Option Instant
  | recordLogin _ at_ => some at_
  | _ => none

end Access

/-- The store after one access after another. -/
def after (s : Store) (accesses : List Access) : Store :=
  accesses.foldl (fun s a => (a.run s).2) s

/-- What one access after another is answered. -/
def answers : Store → List Access → List Answer
  | _, [] => []
  | s, a :: rest => (a.run s).1 :: answers (a.run s).2 rest

/-- What is found of anybody at any later time is as if the access had not been made. -/
def LeavesNoTrace (s : Store) (a : Access) : Prop :=
  ∀ later uid, ((a.run s).2.after later).get uid = (s.after later).get uid

/-! ### What should be answered -/

/-- The accesses of the data of a user since it was last deleted. -/
def recent (uid : Uid) (past : List Access) : List Access :=
  (past.filter fun a => a.uid = uid).rtakeWhile (· ≠ .delete uid)

/-- Something was written since then. -/
def isKept (uid : Uid) (past : List Access) : Bool := (recent uid past).any Access.isWrite

/-- The preferred name that was set last since then, and the instant that was recorded first. -/
def keptData (uid : Uid) (past : List Access) : UserData where
  uid := uid
  preferredName := ((recent uid past).filterMap Access.name?).getLast?.join
  firstLoginAt := ((recent uid past).filterMap Access.login?).head?

/-- What an access should be answered after others. -/
def Access.expected (past : List Access) : Access → Answer
  | get uid => .found (.ok (if isKept uid past then some (keptData uid past) else none))
  | setName uid name => .written (.ok (keptData uid (past ++ [setName uid name])))
  | recordLogin uid at_ => .written (.ok (keptData uid (past ++ [recordLogin uid at_])))
  | delete uid => .deleted (isKept uid past)

/-- What one access after another should be answered. -/
def expected (accesses : List Access) : List Answer :=
  accesses.mapIdx fun n a => a.expected (accesses.take n)

end CampusView.Store
