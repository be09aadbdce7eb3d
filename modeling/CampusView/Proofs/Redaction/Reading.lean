import CampusView.Proofs.Json.Members
import CampusView.Redaction
import Mathlib.Data.List.Forall2
import Mathlib.Tactic.Common

/-!
# Deleting and then reading

To delete members of a value and then read it is to read it and then remove fields.

* `DeletesAs` puts a path into a part of a page and an edit of that part together, and
  `PageDeletesAs` does so for the page.
* `hiddenEdits` are the edits for the paths of `hiddenPaths`. All of them make a delegate's view
  (`AcademicsFeed.forDelegate_eq`).
-/

namespace CampusView

open Json

/-! ### Changed members -/

namespace Json.Members

variable {name : String} {names : List String} {f : Value → Value} {ms : Members}

theorem lookup_modify (k name : String) (f : Value → Value) (ms : Members) :
    (modify name f ms).lookup k = if k = name then (ms.lookup k).map f else ms.lookup k := by
  induction ms with
  | nil => simp [modify]
  | cons m ms ih =>
    rw [modify, List.map_cons, ← modify, lookup_cons, lookup_cons, ih]
    by_cases hk : k = m.1
    · subst hk
      split_ifs <;> simp
    · rw [if_neg hk, if_neg hk]

/-- What is left out anyway may be changed before. -/
theorem without_modify (h : name ∈ names) :
    without names (modify name f ms) = without names ms := by
  induction ms with
  | nil => rfl
  | cons m ms ih =>
    unfold without modify at *
    rw [List.map_cons, List.filter_cons, List.filter_cons, ih]
    by_cases hm : m.1 = name
    · simp [hm, h]
    · simp [hm]

theorem modify_eq_self (h : ∀ m ∈ ms, m.1 ≠ name) : modify name f ms = ms := by
  unfold modify
  conv_rhs => rw [← List.map_id ms]
  exact List.map_congr_left fun m hm => by simp [h m hm]

@[simp] theorem modify_append (ms' : Members) :
    modify name f (ms ++ ms') = modify name f ms ++ modify name f ms' :=
  List.map_append ..

end Json.Members

/-! ### Reading after a deletion -/

@[simp] theorem Json.Value.delete_member (k : String) (ms : Members) :
    Value.delete [.member k] (.object ms) = .object (Members.without [k] ms) := rfl

@[simp] theorem Json.Value.delete_into (k : String) (s : Step) (path : Path) (ms : Members) :
    Value.delete (.member k :: s :: path) (.object ms) =
      .object (Members.modify k (Value.delete (s :: path)) ms) := by
  simp [Value.delete]

@[simp] theorem Json.Value.delete_each (path : Path) (xs : List Value) :
    Value.delete (.each :: path) (.array xs) = .array (xs.map (Value.delete path)) := by
  simp [Value.delete]

/-- To delete a path and then read is to read and then make an edit. -/
def DeletesAs {α : Type} [Decode α] (path : Path) (edit : α → α) : Prop :=
  ∀ v : Value, decode? (v.delete path) = (decode? v : Option α).map edit

theorem readableItems?_delete {α : Type} [Decode α] {path : Path} {edit : α → α}
    (h : DeletesAs path edit) (v : Value) :
    readableItems? (v.delete (.each :: path)) =
      (readableItems? v : Option (List α)).map (List.map edit) := by
  cases v with
  | array xs =>
    simp only [Value.delete_each, readableItems?, Value.items?, Option.map_some, Option.some.injEq]
    rw [List.filterMap_map, List.map_filterMap]
    congr 1
    funext x
    exact h x
  | _ => simp [Value.delete, readableItems?, Value.items?]

/-- The same for a list in a member. -/
theorem bind_readableItems?_delete {α : Type} [Decode α] {path : Path} {edit : α → α}
    (h : DeletesAs path edit) (v : Option Value) :
    (v.map (Value.delete (.each :: path))).bind readableItems? =
      (v.bind readableItems? : Option (List α)).map (List.map edit) := by
  cases v with
  | none => rfl
  | some v => simpa using readableItems?_delete h v

theorem deletesAs_grade : DeletesAs [.member "grade"] Section.withoutGrade := by
  intro v
  cases v with
  | object ms =>
    simp [decode?, Value.members?, presentMember?, Members.lookup_without, Section.withoutGrade,
      Members.without_without]
  | _ => rfl

theorem deletesAs_cumulativeGpa :
    DeletesAs [.member "cumulativeGpa"] GpaUnits.withoutCumulative := by
  intro v
  cases v with
  | object ms =>
    simp [decode?, Value.members?, presentMember?, Members.lookup_without,
      GpaUnits.withoutCumulative, Members.without_without]
  | _ => rfl

theorem deletesAs_slug : DeletesAs [.member "slug"] Semester.withoutSlug := by
  intro v
  cases v with
  | object ms =>
    simp [decode?, Value.members?, presentMember?, Members.lookup_without, Semester.withoutSlug,
      Members.without_without]
  | _ => rfl

/-! Edits of the parts of a list. -/

/-- Change the sections of a class. -/
def Course.mapSections (edit : Section → Section) (c : Course) : Course :=
  { c with sections := c.sections.map edit }

/-- Change the transcript entries of a class. -/
def Course.mapTranscript (edit : Section → Section) (c : Course) : Course :=
  { c with transcript := c.transcript.map (List.map edit) }

/-- Change the classes of a semester. -/
def Semester.mapClasses (edit : Course → Course) (s : Semester) : Semester :=
  { s with classes := s.classes.map edit }

section Lists

variable {path : Path}

theorem deletesAs_sections {edit : Section → Section} (h : DeletesAs path edit) :
    DeletesAs (.member "sections" :: .each :: path) (Course.mapSections edit) := by
  intro v
  cases v with
  | object ms =>
    simp only [Value.delete_into, decode?, Value.members?, Members.lookup_modify, Option.map_some,
      Members.without_modify (show "sections" ∈ ["sections", "transcript"] by decide), if_true,
      bind_readableItems?_delete h, show ("transcript" = "sections") = False by decide, if_false]
    cases ((ms.lookup "sections").bind readableItems? : Option (List Section)) <;> rfl
  | _ => rfl

theorem deletesAs_transcript {edit : Section → Section} (h : DeletesAs path edit) :
    DeletesAs (.member "transcript" :: .each :: path) (Course.mapTranscript edit) := by
  intro v
  cases v with
  | object ms =>
    simp only [Value.delete_into, decode?, Value.members?, Members.lookup_modify, Option.map_some,
      Members.without_modify (show "transcript" ∈ ["sections", "transcript"] by decide), if_true,
      bind_readableItems?_delete h, show ("sections" = "transcript") = False by decide, if_false]
    rfl
  | _ => rfl

theorem deletesAs_classes {edit : Course → Course} (h : DeletesAs path edit) :
    DeletesAs (.member "classes" :: .each :: path) (Semester.mapClasses edit) := by
  intro v
  cases v with
  | object ms =>
    simp only [Value.delete_into, decode?, Value.members?, Members.lookup_modify, Option.map_some,
      Members.without_modify (show "classes" ∈ ["slug", "classes"] by decide), if_true,
      bind_readableItems?_delete h, presentMember?, show ("slug" = "classes") = False by decide,
      if_false]
    cases ((ms.lookup "classes").bind readableItems? : Option (List Course)) <;> rfl
  | _ => rfl

end Lists

/-! ### Reading a whole page -/

@[simp] theorem Json.Record.getD?_value (r : Record) (name : String) :
    (r.getD? name none : Option (Option Value)) =
      some ((r.find? name).filter fun v => !v.isNull) := by
  unfold Record.getD?
  cases r.find? name with
  | none => rfl
  | some v => cases h : v.isNull <;> simp [decode?, h, Option.filter]

namespace AcademicsFeed

/-- The page with these members. -/
def ofFind (find? : String → Option Value) (filtered : Bool) : AcademicsFeed where
  semesters := ((find? "semesters").bind readableItems?).getD []
  gpaUnits := (find? "gpaUnits").bind decode?
  examSchedule := (find? "examSchedule").filter fun v => !v.isNull
  transitionTerm := (find? "transitionTerm").filter fun v => !v.isNull
  regblocks := (find? "regblocks").filter fun v => !v.isNull
  requirements := (find? "requirements").filter fun v => !v.isNull
  otherSiteMemberships := (find? "otherSiteMemberships").filter fun v => !v.isNull
  filteredForDelegate := filtered

/-- Only the mark of a page that is filtered already can be unreadable. -/
theorem decode?_eq (v : Value) :
    (decode? v : Option AcademicsFeed) = (v.record? layout).bind fun r =>
      (r.getD? "filteredForDelegate" false).map (ofFind r.find?) := by
  unfold decode? instDecodeAcademicsFeed
  simp only [Record.getD?_value]
  cases v.record? layout with
  | none => rfl
  | some r =>
    simp only [Option.bind_eq_bind, Option.bind_some]
    cases r.getD? "filteredForDelegate" false <;> rfl

theorem decode?_object (ms : Members) :
    (decode? (.object ms) : Option AcademicsFeed) =
      ((ms.lookup "filteredForDelegate").elim (some false) Value.toBool?).map
        (ofFind fun name => ms.lookup name) := by
  rw [decode?_eq]
  simp only [Value.record?, Option.bind_some, Record.getD?]
  cases ms.lookup "filteredForDelegate" <;> rfl

/-- Change the semesters of a page. -/
def mapSemesters (edit : Semester → Semester) (f : AcademicsFeed) : AcademicsFeed :=
  { f with semesters := f.semesters.map edit }

/-- Change the averages of a page. -/
def mapGpaUnits (edit : GpaUnits → GpaUnits) (f : AcademicsFeed) : AcademicsFeed :=
  { f with gpaUnits := f.gpaUnits.map edit }

/-- To delete a path of a page is to delete it from an object, and then the page reads as edited.
-/
def PageDeletesAs (path : Path) (edit : AcademicsFeed → AcademicsFeed) : Prop :=
  ∀ ms : Members, ∃ ms', (Value.object ms).delete path = .object ms' ∧
    (decode? (.object ms') : Option AcademicsFeed) = (decode? (.object ms)).map edit

/-- A member of the page itself. -/
theorem pageDeletesAs_member {k : String} {edit : AcademicsFeed → AcademicsFeed}
    (hk : k ≠ "filteredForDelegate")
    (h : ∀ find? b, ofFind (fun n => if n = k then none else find? n) b = edit (ofFind find? b)) :
    PageDeletesAs [.member k] edit := by
  intro ms
  refine ⟨_, Value.delete_member _ _, ?_⟩
  rw [decode?_object, decode?_object, Option.map_map]
  simp only [Members.lookup_without, List.mem_singleton, hk.symm, if_false]
  congr 1
  funext b
  exact h _ b

theorem pageDeletesAs_semesters {path : Path} {edit : Semester → Semester}
    (h : DeletesAs path edit) :
    PageDeletesAs (.member "semesters" :: .each :: path) (mapSemesters edit) := by
  intro ms
  refine ⟨_, Value.delete_into _ _ _ _, ?_⟩
  rw [decode?_object, decode?_object, Option.map_map]
  congr 1
  · funext b
    simp only [ofFind, mapSemesters, Members.lookup_modify, Function.comp, if_true,
      bind_readableItems?_delete h]
    cases ((ms.lookup "semesters").bind readableItems? : Option (List Semester)) <;> rfl
  · simp [Members.lookup_modify]

theorem pageDeletesAs_gpaUnits :
    PageDeletesAs [.member "gpaUnits", .member "cumulativeGpa"]
      (mapGpaUnits GpaUnits.withoutCumulative) := by
  intro ms
  refine ⟨_, Value.delete_into _ _ _ _, ?_⟩
  rw [decode?_object, decode?_object, Option.map_map]
  congr 1
  · funext b
    simp only [ofFind, mapGpaUnits, Members.lookup_modify, Function.comp, if_true]
    cases ms.lookup "gpaUnits" with
    | none => rfl
    | some v => simp [deletesAs_cumulativeGpa v]
  · simp [Members.lookup_modify]

/-! ### The edits of a redaction -/

/-- What is removed for every delegate, path by path. -/
def delegateEdits : List (AcademicsFeed → AcademicsFeed) := [
  fun f => { f with regblocks := none },
  fun f => { f with requirements := none },
  fun f => { f with otherSiteMemberships := none },
  mapSemesters Semester.withoutSlug]

/-- What is removed with the grades, path by path. -/
def gradeEdits : List (AcademicsFeed → AcademicsFeed) := [
  mapSemesters (Semester.mapClasses (Course.mapSections Section.withoutGrade)),
  mapSemesters (Semester.mapClasses (Course.mapTranscript Section.withoutGrade)),
  mapGpaUnits GpaUnits.withoutCumulative]

/-- What is removed for a delegate with these privileges. -/
def hiddenEdits (p : PrivilegeSet) : List (AcademicsFeed → AcademicsFeed) :=
  if p.viewGrades then delegateEdits else delegateEdits ++ gradeEdits

/-- Make edits one after another. -/
def editAll (edits : List (AcademicsFeed → AcademicsFeed)) (f : AcademicsFeed) : AcademicsFeed :=
  edits.foldl (fun f edit => edit f) f

theorem forall₂_delegateEdits : List.Forall₂ PageDeletesAs delegatePaths delegateEdits :=
  .cons (pageDeletesAs_member (by decide) fun _ _ => rfl) <|
  .cons (pageDeletesAs_member (by decide) fun _ _ => rfl) <|
  .cons (pageDeletesAs_member (by decide) fun _ _ => rfl) <|
  .cons (pageDeletesAs_semesters deletesAs_slug) .nil

theorem forall₂_gradeEdits : List.Forall₂ PageDeletesAs gradePaths gradeEdits :=
  .cons (pageDeletesAs_semesters (deletesAs_classes (deletesAs_sections deletesAs_grade))) <|
  .cons (pageDeletesAs_semesters (deletesAs_classes (deletesAs_transcript deletesAs_grade))) <|
  .cons pageDeletesAs_gpaUnits .nil

theorem forall₂_hiddenEdits (p : PrivilegeSet) :
    List.Forall₂ PageDeletesAs (hiddenPaths p) (hiddenEdits p) := by
  unfold hiddenPaths hiddenEdits
  split
  · exact forall₂_delegateEdits
  · exact List.rel_append forall₂_delegateEdits forall₂_gradeEdits

theorem decode?_deleteAll {paths : List Path} {edits : List (AcademicsFeed → AcademicsFeed)}
    (h : List.Forall₂ PageDeletesAs paths edits) (ms : Members) :
    decode? (paths.foldl (fun v path => v.delete path) (.object ms)) =
      (decode? (.object ms) : Option AcademicsFeed).map (editAll edits) := by
  induction h generalizing ms with
  | nil =>
    show _ = Option.map id _
    rw [Option.map_id_apply]
    rfl
  | cons hd _ ih =>
    obtain ⟨ms', hv, hr⟩ := hd ms
    rw [List.foldl_cons, hv, ih ms', hr, Option.map_map]
    rfl

theorem decode?_redact (p : PrivilegeSet) (ms : Members) :
    decode? (redact p (.object ms)) =
      (decode? (.object ms) : Option AcademicsFeed).map (editAll (hiddenEdits p)) :=
  decode?_deleteAll (forall₂_hiddenEdits p) ms

/-- A delegate's view is the page with all edits made, and marked. -/
theorem forDelegate_eq (p : PrivilegeSet) (f : AcademicsFeed) :
    f.forDelegate p = editAll (hiddenEdits p) { f with filteredForDelegate := true } := by
  unfold forDelegate hiddenEdits
  split
  · rfl
  · have h : Semester.withoutGrades =
        Semester.mapClasses (Course.mapTranscript Section.withoutGrade) ∘
          Semester.mapClasses (Course.mapSections Section.withoutGrade) := by
      funext s
      unfold Semester.withoutGrades Semester.mapClasses
      rw [Function.comp, List.map_map]
      rfl
    simp only [editAll, delegateEdits, gradeEdits, withoutGrades, mapSemesters, mapGpaUnits, h,
      List.cons_append, List.nil_append, List.foldl_cons, List.foldl_nil, List.map_map]
    rfl

end AcademicsFeed

end CampusView
