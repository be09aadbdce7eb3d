import CampusView.Proofs.Redaction.Reading

/-!
# Pages with malformed members

What the campus service sends of an academics page may be malformed in places. `Mend` says what
stays of a member, said of JSON alone: a list is kept without the entries that are no objects, and a
member that is not what it should be is as good as none. `mendedPage` puts this together for a whole
page, from its tables of declared members. Members of a part that are not declared are kept as they
are.

`decode?_mended_iff` says that a page is read as the mended one, whatever its members are, unless
the mark of a page that is filtered already is no flag: then nothing of the page is read.
-/

namespace CampusView

open Json

/-! ### Mending -/

/-- What stays of a member: the value that is written, of the value that came, if any. -/
abbrev Mend := Option Value → Option Value

/-- What stays of the declared members, in the order of declaration. -/
def Json.Members.mended (declared : List (String × Mend)) (ms : Members) : Members :=
  declared.flatMap fun d => optionalMember d.1 (d.2 (ms.lookup d.1))

/-- What stays of the members of a part: the declared ones, mended, and then all others. -/
def Json.Members.mend (declared : List (String × Mend)) (ms : Members) : Members :=
  ms.mended declared ++ ms.without (declared.map Prod.fst)

namespace Mend

/-- A member that may be anything. A null is none. -/
def any : Mend := fun v => v.filter fun x => !x.isNull

/-- A flag. One that is not set is none. -/
def flag : Mend := fun v =>
  if v.bind Value.toBool? = some true then some (.bool true) else none

/-- An object with declared members, or none. -/
def object (declared : List (String × Mend)) : Mend := fun v =>
  (v.bind Value.members?).map fun ms => .object (ms.mend declared)

/-- The objects of an array, or none. -/
def objects? (declared : List (String × Mend)) : Mend := fun v =>
  (v.bind Value.items?).map fun xs =>
    .array ((xs.filterMap Value.members?).map fun ms => .object (ms.mend declared))

/-- The objects of an array, or an empty one. -/
def objects (declared : List (String × Mend)) : Mend := fun v =>
  some ((objects? declared v).getD (.array []))

end Mend

/-- The declared members of a section and of an entry of a transcript. -/
def sectionMembers : List (String × Mend) := [("grade", Mend.any)]

/-- The declared members of a class. -/
def courseMembers : List (String × Mend) :=
  [("sections", Mend.objects sectionMembers), ("transcript", Mend.objects? sectionMembers)]

/-- The declared members of a semester. -/
def semesterMembers : List (String × Mend) :=
  [("slug", Mend.any), ("classes", Mend.objects courseMembers)]

/-- The declared members of the averages. -/
def gpaUnitsMembers : List (String × Mend) := [("cumulativeGpa", Mend.any)]

/-- The declared members of a page. -/
def pageMembers : List (String × Mend) := [
  ("semesters", Mend.objects semesterMembers),
  ("gpaUnits", Mend.object gpaUnitsMembers),
  ("examSchedule", Mend.any),
  ("transitionTerm", Mend.any),
  ("regblocks", Mend.any),
  ("requirements", Mend.any),
  ("otherSiteMemberships", Mend.any),
  ("filteredForDelegate", Mend.flag)]

/-- What stays of a page with these members. It has only the declared ones. -/
def mendedPage (ms : Members) : Value := .object (ms.mended pageMembers)

/-- The mark of a page that is filtered already is a flag, if it is there. -/
def MarkIsFlag (ms : Members) : Prop :=
  ∀ v, ms.lookup "filteredForDelegate" = some v → ∃ b, v = .bool b

/-! ### Parts -/

/-- A part is read from every object, and from nothing else, and what is written of it is the mended
object. -/
def Mends (α : Type) [Encode α] [Decode α] (declared : List (String × Mend)) : Prop :=
  ∀ v : Value, (decode? v : Option α).map encode =
    v.members?.map fun ms => .object (ms.mend declared)

section Parts

variable {α : Type} [Encode α] [Decode α] {declared : List (String × Mend)}

/-- The parts in an array are those of its objects. -/
theorem Mends.list (h : Mends α declared) (v : Option Value) :
    (v.bind readableItems? : Option (List α)).map encode = Mend.objects? declared v := by
  cases v with
  | none => rfl
  | some v =>
    cases v with
    | array xs =>
      simp only [Mend.objects?, Option.bind_some, readableItems?, Value.items?, Option.map_some]
      refine congrArg (some ∘ Value.array) ?_
      rw [List.map_filterMap, List.map_filterMap]
      exact congrArg (List.filterMap · xs) (funext h)
    | _ => rfl

/-- The same for parts that are none if there is no array. -/
theorem Mends.getD (h : Mends α declared) (v : Option Value) :
    some (encode ((v.bind readableItems? : Option (List α)).getD [])) =
      Mend.objects declared v := by
  rw [Mend.objects, ← h.list v]
  cases (v.bind readableItems? : Option (List α)) <;> rfl

theorem Mends.optional (h : Mends α declared) (v : Option Value) :
    (v.bind decode? : Option α).map encode = Mend.object declared v := by
  cases v with
  | none => rfl
  | some v => exact h v

end Parts

theorem mends_section : Mends Section sectionMembers := by
  intro v
  cases v with
  | object ms =>
    simp only [Members.mend, Members.mended, sectionMembers, List.flatMap_cons, List.flatMap_nil,
      List.append_nil]
    rfl
  | _ => rfl

theorem mends_gpaUnits : Mends GpaUnits gpaUnitsMembers := by
  intro v
  cases v with
  | object ms =>
    simp only [Members.mend, Members.mended, gpaUnitsMembers, List.flatMap_cons, List.flatMap_nil,
      List.append_nil]
    rfl
  | _ => rfl

theorem mends_course : Mends Course courseMembers := by
  intro v
  cases v with
  | object ms =>
    simp only [Members.mend, Members.mended, courseMembers, List.flatMap_cons, List.flatMap_nil,
      List.append_nil, ← mends_section.list, ← mends_section.getD]
    rfl
  | _ => rfl

theorem mends_semester : Mends Semester semesterMembers := by
  intro v
  cases v with
  | object ms =>
    simp only [Members.mend, Members.mended, semesterMembers, List.flatMap_cons, List.flatMap_nil,
      List.append_nil, List.append_assoc, ← mends_course.getD]
    rfl
  | _ => rfl

/-! ### Pages -/

namespace AcademicsFeed

/-- The mark of a page is read exactly if it is a flag or missing. -/
theorem isSome_mark_iff (ms : Members) :
    ((ms.lookup "filteredForDelegate").elim (some false) Value.toBool?).isSome = true ↔
      MarkIsFlag ms := by
  unfold MarkIsFlag
  cases ms.lookup "filteredForDelegate" with
  | none => simp
  | some v => cases v <;> simp [Value.toBool?]

/-- What is written of a page is what stays of its members. -/
theorem encode_ofFind {ms : Members} {b : Bool}
    (h : (ms.lookup "filteredForDelegate").elim (some false) Value.toBool? = some b) :
    encode (ofFind (fun name => ms.lookup name) b) = mendedPage ms := by
  have hmark : Mend.flag (ms.lookup "filteredForDelegate") =
      if b then some (.bool true) else none := by
    cases hv : ms.lookup "filteredForDelegate" with
    | none =>
      rw [hv] at h
      obtain rfl := Option.some.inj h
      rfl
    | some v =>
      rw [hv] at h
      show (if v.toBool? = some true then _ else _) = _
      rw [show v.toBool? = some b from h]
      cases b <;> rfl
  simp only [mendedPage, Members.mended, pageMembers, List.flatMap_cons, List.flatMap_nil,
    List.append_nil, hmark, ← mends_semester.getD, ← mends_gpaUnits.optional]
  simp only [encode, ofFind, List.cons_append, List.append_assoc]
  rfl

/-- **How a page with malformed members is read.** A page is read, and what is written of it is the
mended page, whatever the members of the page are, exactly if its mark is a flag or missing. If the
mark is anything else, nothing is read. -/
theorem decode?_mended_iff (ms : Members) :
    ((decode? (.object ms) : Option AcademicsFeed).map encode = some (mendedPage ms) ↔
        MarkIsFlag ms) ∧
      ((decode? (.object ms) : Option AcademicsFeed) = none ↔ ¬MarkIsFlag ms) := by
  rw [decode?_object, ← isSome_mark_iff]
  cases hmark : (ms.lookup "filteredForDelegate").elim (some false) Value.toBool? with
  | none => simp
  | some b => simp [encode_ofFind hmark]

/-- A page with some malformed members, and this mark. -/
def markedPage (mark : Members) : Members := mark ++ [
  ("gpaUnits", .array []),
  ("semesters", .array [
    .object [("classes", .null), ("name", .string "Fall")], .string "no semester"])]

/-- Without a mark, the semester that the page has is read. With a text or a null for the mark,
nothing is. -/
theorem markedPage_unread :
    (decode? (.object (markedPage [])) : Option AcademicsFeed).map encode =
        some (.object [("semesters", .array [
          .object [("classes", .array []), ("name", .string "Fall")]])]) ∧
      (decode? (.object (markedPage [("filteredForDelegate", .string "no")])) :
        Option AcademicsFeed) = none ∧
      (decode? (.object (markedPage [("filteredForDelegate", .null)])) :
        Option AcademicsFeed) = none :=
  ⟨rfl, rfl, rfl⟩

end AcademicsFeed

end CampusView
