/-!
# Answers of campus systems

A campus system that is asked about somebody finds a record, knows of none, or fails. Not knowing
is a proper answer; a failure says nothing about the person.
-/

namespace CampusView

/-- The answer of a campus system. -/
inductive Lookup (α : Type)
  | found (record : α)
  | notFound
  | errored (details : String)
deriving DecidableEq, Repr

namespace Lookup

variable {α β : Type}

/-- The record, if one was found. -/
def found? : Lookup α → Option α
  | found a => some a
  | _ => none

/-- The system failed. -/
def isErrored : Lookup α → Bool
  | errored _ => true
  | _ => false

/-- Change the record that was found. -/
def map (f : α → β) : Lookup α → Lookup β
  | found a => found (f a)
  | notFound => notFound
  | errored details => errored details

/-- Look into the record that was found; a record with nothing there counts as none. -/
def mapFound (f : α → Option β) : Lookup α → Lookup β
  | found a => (f a).elim notFound found
  | notFound => notFound
  | errored details => errored details

theorem found?_eq_some_iff {l : Lookup α} {a : α} : l.found? = some a ↔ l = .found a := by
  cases l <;> simp [found?]

@[simp] theorem found?_map (f : α → β) (l : Lookup α) : (l.map f).found? = l.found?.map f := by
  cases l <;> rfl

@[simp] theorem isErrored_map (f : α → β) (l : Lookup α) : (l.map f).isErrored = l.isErrored := by
  cases l <;> rfl

end Lookup

end CampusView
