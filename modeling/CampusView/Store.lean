import CampusView.UserData

/-!
# The store of user data

The store keeps a row for a user from the first write until the row is deleted. The instant of the
first login is kept as a text in RFC 3339 and read strictly, so a row may hold a text that is no
such instant.

* `setName` replaces the preferred name, `recordLogin` keeps the first instant it is given, and
  both answer with what is kept then.
* Reading back may fail, though the write is made.

The store is a function from users to rows.
-/

namespace CampusView

open Time

/-- What the store keeps of a user. -/
structure StoredRow where
  preferredName : Option String := none
  /-- The instant of the first login, as it is written. -/
  firstLogin : Option String := none
deriving DecidableEq, Repr

/-- Why a row cannot be read. -/
inductive StoreFault
  /-- The instant of the first login is written in another form. -/
  | unreadableLogin
deriving DecidableEq, Repr

/-- Rows by user. -/
structure Store where
  /-- The row of a user. -/
  row? : Uid → Option StoredRow

/-- The data that a row keeps of a user. -/
def StoredRow.read (uid : Uid) (row : StoredRow) : Except StoreFault UserData :=
  match row.firstLogin with
  | none => .ok ⟨uid, row.preferredName, none⟩
  | some text =>
    match Instant.parse? text with
    | some at_ => .ok ⟨uid, row.preferredName, some at_⟩
    | none => .error .unreadableLogin

namespace Store

@[ext] theorem ext {a b : Store} (h : ∀ u, a.row? u = b.row? u) : a = b := by
  cases a
  cases b
  congr
  exact funext h

/-- No rows. -/
def empty : Store := ⟨fun _ => none⟩

instance : EmptyCollection Store := ⟨empty⟩
instance : Inhabited Store := ⟨empty⟩

/-- Put a row in the place of what is there. -/
def put (s : Store) (uid : Uid) (row : Option StoredRow) : Store :=
  ⟨fun u => if u = uid then row else s.row? u⟩

/-- The data kept of a user. -/
def get (s : Store) (uid : Uid) : Except StoreFault (Option UserData) :=
  match s.row? uid with
  | none => .ok none
  | some row => (row.read uid).map some

/-- Change the row of a user, an empty one if there is none, and read it back. -/
def change (s : Store) (uid : Uid) (f : StoredRow → StoredRow) :
    Except StoreFault UserData × Store :=
  let row := f ((s.row? uid).getD {})
  (row.read uid, s.put uid (some row))

/-- Set the preferred name of a user, or clear it. -/
def setName (s : Store) (uid : Uid) (name : Option String) : Except StoreFault UserData × Store :=
  s.change uid fun row => { row with preferredName := name }

/-- Keep the instant of a login, unless one is kept already. -/
def recordLogin (s : Store) (uid : Uid) (at_ : Instant) : Except StoreFault UserData × Store :=
  s.change uid fun row => { row with firstLogin := row.firstLogin.or (some at_.toOffsetText) }

/-- Delete the row of a user. The answer is whether there was one. -/
def delete (s : Store) (uid : Uid) : Bool × Store := ((s.row? uid).isSome, s.put uid none)

/-- Replace the text of the first login in the row of a user. The answer is whether there is a
row. -/
def overwriteLogin (s : Store) (uid : Uid) (text : String) : Bool × Store :=
  match s.row? uid with
  | none => (false, s)
  | some row => (true, s.put uid (some { row with firstLogin := some text }))

section

variable (s : Store) (u uid : Uid)

@[simp] theorem row?_empty : (∅ : Store).row? uid = none := rfl

@[simp] theorem row?_put (row : Option StoredRow) :
    (s.put uid row).row? u = if u = uid then row else s.row? u := rfl

@[simp] theorem row?_setName (name : Option String) :
    (s.setName uid name).2.row? u =
      if u = uid then some { (s.row? uid).getD {} with preferredName := name } else s.row? u := rfl

@[simp] theorem row?_recordLogin (at_ : Instant) :
    (s.recordLogin uid at_).2.row? u =
      if u = uid then
        some { (s.row? uid).getD {} with
          firstLogin := ((s.row? uid).getD {}).firstLogin.or (some at_.toOffsetText) }
      else s.row? u := rfl

@[simp] theorem row?_delete :
    (s.delete uid).2.row? u = if u = uid then none else s.row? u := rfl

end

end Store

end CampusView
