import CampusView.Json.Codec

/-!
# Roles

`Role` lists the roles of the campus. A `RoleSet` records for each role that it is held, that it
is not held, or nothing; what is not recorded counts as not held. Two operations combine sets:
`overlay` copies what another set records about given roles, and `extendGranted` adds what another
set grants.
-/

namespace CampusView

open Json

/-- A role on campus. -/
inductive Role
  | student
  | exStudent
  | registered
  | undergrad
  | graduate
  | law
  | faculty
  | staff
  | advisor
  | applicant
  | guest
  | concurrentEnrollmentStudent
deriving DecidableEq, Repr

namespace Role

/-- The roles in order. -/
def all : List Role :=
  [student, exStudent, registered, undergrad, graduate, law, faculty, staff, advisor, applicant,
    guest, concurrentEnrollmentStudent]

theorem mem_all (r : Role) : r ∈ all := by cases r <;> decide

/-- The name of a role. -/
def name : Role → String
  | student => "student"
  | exStudent => "exStudent"
  | registered => "registered"
  | undergrad => "undergrad"
  | graduate => "graduate"
  | law => "law"
  | faculty => "faculty"
  | staff => "staff"
  | advisor => "advisor"
  | applicant => "applicant"
  | guest => "guest"
  | concurrentEnrollmentStudent => "concurrentEnrollmentStudent"

/-- The role of that name. -/
def ofName? (s : String) : Option Role := all.find? fun r => r.name == s

/-- The roles on which the modern student record is trusted. -/
def modernWhitelist : List Role := [student, applicant, advisor]

end Role

/-- What is recorded about each role. -/
structure RoleSet where
  /-- Held, not held, or nothing recorded. -/
  recorded : Role → Option Bool

namespace RoleSet

@[ext] theorem ext {a b : RoleSet} (h : ∀ r, a.recorded r = b.recorded r) : a = b := by
  cases a
  cases b
  congr
  exact funext h

instance : DecidableEq RoleSet := fun a b =>
  decidable_of_iff (∀ r ∈ Role.all, a.recorded r = b.recorded r)
    ⟨fun h => ext fun r => h r r.mem_all, fun h _ _ => h ▸ rfl⟩

/-- Nothing recorded. -/
def empty : RoleSet := ⟨fun _ => none⟩

instance : EmptyCollection RoleSet := ⟨empty⟩
instance : Inhabited RoleSet := ⟨empty⟩

/-- The role is held. -/
def get (s : RoleSet) (r : Role) : Bool := (s.recorded r).getD false

/-- Record whether a role is held. -/
def set (s : RoleSet) (r : Role) (held : Bool) : RoleSet :=
  ⟨fun q => if q = r then some held else s.recorded q⟩

/-- Record that a role is held. -/
def grant (s : RoleSet) (r : Role) : RoleSet := s.set r true

/-- Forget what is recorded about a role. -/
def erase (s : RoleSet) (r : Role) : RoleSet :=
  ⟨fun q => if q = r then none else s.recorded q⟩

/-- The roles that are held, in order. -/
def granted (s : RoleSet) : List Role := Role.all.filter s.get

/-- No role is held. -/
def isEmpty (s : RoleSet) : Bool := s.granted.isEmpty

/-- What `other` records about the given roles, and for the rest what is recorded here. -/
def overlay (s other : RoleSet) (roles : List Role) : RoleSet :=
  ⟨fun q => if q ∈ roles then (other.recorded q).or (s.recorded q) else s.recorded q⟩

/-- The roles that `other` grants, and for the rest what is recorded here. -/
def extendGranted (s other : RoleSet) : RoleSet :=
  ⟨fun q => if other.get q then some true else s.recorded q⟩

/-- The set that grants these roles. -/
def ofList (roles : List Role) : RoleSet := ⟨fun q => if q ∈ roles then some true else none⟩

/-- The recorded flags with the names of their roles, in order. -/
def toList (s : RoleSet) : List (Role × Bool) :=
  Role.all.filterMap fun r => (s.recorded r).map fun held => (r, held)

/-- The flags of an object. Other names and other values are dropped, and so is anything that is no
object. -/
def ofValue : Value → RoleSet
  | .object ms => ⟨fun r => (ms.lookup r.name).bind Value.toBool?⟩
  | _ => empty

instance : Encode RoleSet :=
  ⟨fun s => .object (s.toList.map fun (r, held) => (r.name, .bool held))⟩
instance : Decode RoleSet := ⟨.any, fun v => some (ofValue v)⟩

section

variable (s other : RoleSet) (q r : Role) (held : Bool)

@[simp] theorem recorded_empty : (∅ : RoleSet).recorded r = none := rfl

@[simp] theorem get_empty : (∅ : RoleSet).get r = false := rfl

@[simp] theorem recorded_set :
    (s.set r held).recorded q = if q = r then some held else s.recorded q := rfl

@[simp] theorem get_set : (s.set r held).get q = if q = r then held else s.get q := by
  by_cases h : q = r <;> simp [get, h]

@[simp] theorem recorded_grant :
    (s.grant r).recorded q = if q = r then some true else s.recorded q := rfl

@[simp] theorem recorded_erase :
    (s.erase r).recorded q = if q = r then none else s.recorded q := rfl

@[simp] theorem recorded_overlay (roles : List Role) :
    (s.overlay other roles).recorded q =
      if q ∈ roles then (other.recorded q).or (s.recorded q) else s.recorded q := rfl

@[simp] theorem recorded_extendGranted :
    (s.extendGranted other).recorded q = if other.get q then some true else s.recorded q := rfl

@[simp] theorem get_extendGranted :
    (s.extendGranted other).get q = (other.get q || s.get q) := by
  cases h : other.get q <;> simp [extendGranted, get] <;> simp_all [get]

@[simp] theorem mem_granted : r ∈ s.granted ↔ s.get r = true := by
  simp [granted, Role.mem_all]

@[simp] theorem recorded_ofList (roles : List Role) :
    (ofList roles).recorded r = if r ∈ roles then some true else none := rfl

end

/-! ### Sets that grant and record nothing else -/

/-- The set grants the roles with this property, and records nothing about the others. -/
def GrantsExactly (s : RoleSet) (p : Role → Prop) : Prop :=
  ∀ r, (p r → s.recorded r = some true) ∧ (¬p r → s.recorded r = none)

theorem grantsExactly_ofList (roles : List Role) : (ofList roles).GrantsExactly (· ∈ roles) :=
  fun _ => ⟨fun h => if_pos h, fun h => if_neg h⟩

namespace GrantsExactly

variable {s t : RoleSet} {p q : Role → Prop}

theorem congr (h : s.GrantsExactly p) (hpq : ∀ r, p r ↔ q r) : s.GrantsExactly q :=
  fun r => ⟨fun hq => (h r).1 ((hpq r).2 hq), fun hq => (h r).2 (mt (hpq r).1 hq)⟩

theorem get_iff (h : s.GrantsExactly p) (r : Role) : s.get r = true ↔ p r := by
  by_cases hr : p r
  · simp [get, (h r).1 hr, hr]
  · simp [get, (h r).2 hr, hr]

theorem extendGranted (h : s.GrantsExactly p) (h' : t.GrantsExactly q) :
    (s.extendGranted t).GrantsExactly fun r => p r ∨ q r := by
  intro r
  by_cases hr : q r
  · simp [(h'.get_iff r).2 hr, hr]
  · simpa [Bool.eq_false_iff.2 (mt (h'.get_iff r).1 hr), hr] using h r

/-- What is granted says all of such a set. -/
theorem recorded_eq (h : s.GrantsExactly p) (h' : t.GrantsExactly q) {r : Role}
    (hr : p r ↔ q r) : s.recorded r = t.recorded r := by
  by_cases hp : p r
  · rw [(h r).1 hp, (h' r).1 (hr.1 hp)]
  · rw [(h r).2 hp, (h' r).2 (mt hr.2 hp)]

theorem eq (h : s.GrantsExactly p) (h' : t.GrantsExactly q) (hpq : ∀ r, p r ↔ q r) : s = t :=
  RoleSet.ext fun r => h.recorded_eq h' (hpq r)

end GrantsExactly

end RoleSet

end CampusView
