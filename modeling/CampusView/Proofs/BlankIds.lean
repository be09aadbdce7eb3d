import CampusView.Proofs.DelegateAccess
import CampusView.Proofs.FieldSources

/-!
# Blank ids of the crosswalk

A blank id is none: a session drops it, a modern record that has one is passed over for the legacy
record, and a legacy record that has one tells nothing. The ids of the crosswalk are not looked at
like that.

* In a profile a blank id of the crosswalk is shown exactly if neither record tells that id.
* A delegate is granted something by a blank id exactly if the first entry with the same blank id
  among the delegate's students lets the delegate see something.

`withoutBlank_iff` says when blank ids can be left out of the crosswalk, and
`blankIds_shown_and_granted` is a case in which they cannot.
-/

namespace CampusView

/-- The ids without those of the given fields that are blank. -/
def CorrelatedIds.withoutBlank (ids : CorrelatedIds) (fs : List Field) : CorrelatedIds :=
  let keep := fun f (id? : Option String) =>
    if f ∈ fs then id?.filter fun id => !Text.isBlankText id else id?
  { ids with
    studentId := keep .studentId ids.studentId
    campusSolutionsId := keep .campusSolutionsId ids.campusSolutionsId }

/-- The crosswalk gives a blank id for one of the given fields. -/
def CorrelatedIds.HasBlank (ids : CorrelatedIds) (fs : List Field) (f : Field) (id : String) :
    Prop :=
  f ∈ fs ∧ ids.id? f = some id ∧ Text.isBlankText id = true

/-- A record tells a field, so that the crosswalk is not asked for it. -/
def RecordTells (answers : SourceAnswers) (ctx : ViewContext) (f : Field) : Prop :=
  (∃ v, ModernTells answers ctx f v) ∨ ∃ s, LegacyTells answers f s

/-- The first entry with this id among the students lets the delegate see something. -/
def GrantsBy (id : String) (students : Lookup (List DelegateStudent)) : Prop :=
  ∃ before entry after, students = .found (before ++ entry :: after) ∧
    (∀ s ∈ before, s.campusSolutionsId ≠ id) ∧ entry.campusSolutionsId = id ∧
    entry.privileges ≠ .none

section

variable {ids : CorrelatedIds} {fs : List Field} {f : Field} {id : String}

theorem CorrelatedIds.id?_withoutBlank (ids : CorrelatedIds) (fs : List Field) (f : Field) :
    (ids.withoutBlank fs).id? f =
      if f ∈ fs then (ids.id? f).filter fun id => !Text.isBlankText id else ids.id? f := by
  cases f <;> first | rfl | exact (ite_self none).symm

/-- An id is left out exactly if it is blank, and its field is one of the given ones. -/
theorem CorrelatedIds.id?_withoutBlank_cases (ids : CorrelatedIds) (fs : List Field) (f : Field) :
    (∃ id, ids.HasBlank fs f id ∧ (ids.withoutBlank fs).id? f = none) ∨
      (∀ id, ¬ids.HasBlank fs f id) ∧ (ids.withoutBlank fs).id? f = ids.id? f := by
  rw [id?_withoutBlank]
  by_cases hf : f ∈ fs
  · cases hid : ids.id? f with
    | none =>
      refine .inr ⟨?_, by rw [if_pos hf]; rfl⟩
      rintro id ⟨-, hid', -⟩
      cases hid.symm.trans hid'
    | some id =>
      cases hblank : Text.isBlankText id with
      | true => exact .inl ⟨id, ⟨hf, hid, hblank⟩, by simp [hf, hblank]⟩
      | false =>
        refine .inr ⟨?_, by simp [hf, hblank]⟩
        rintro id' ⟨-, hid', hblank'⟩
        cases hid.symm.trans hid'
        rw [hblank] at hblank'
        cases hblank'
  · exact .inr ⟨fun id h => hf h.1, if_neg hf⟩

/-! ### Profiles -/

theorem recordTells_iff {answers : SourceAnswers} {ctx : ViewContext} (hf : f.format ≠ .boolean) :
    RecordTells answers ctx f ↔ answers.text? ctx f ≠ none := by
  rw [Ne, text?_eq_none_iff hf, RecordTells, ← not_exists, ← not_exists, ← not_or, not_not]

/-- Profiles are the same exactly if they show the same ids. -/
theorem reconcile_eq_iff_ids {ids' : CorrelatedIds}
    (hdelegate : ids'.delegateUserId = ids.delegateUserId) (uid : Uid)
    (legacy modern : Lookup AttributeBag) (data : Option UserData) (ctx : ViewContext) :
    reconcile uid ⟨legacy, modern, .found ids'⟩ data ctx =
        reconcile uid ⟨legacy, modern, .found ids⟩ data ctx ↔
      ∀ f, (SourceAnswers.text? ⟨legacy, modern, .found ids⟩ ctx f).or (ids'.id? f) =
        (SourceAnswers.text? ⟨legacy, modern, .found ids⟩ ctx f).or (ids.id? f) := by
  constructor
  · intro h f
    cases f with
    | studentId => exact congrArg Profile.studentId h
    | campusSolutionsId => exact congrArg Profile.campusSolutionsId h
    | _ => rfl
  · intro h
    have hstudent := h .studentId
    have hcampus := h .campusSolutionsId
    simp only [CorrelatedIds.id?] at hstudent hcampus
    simp only [reconcile, Lookup.found?, Option.bind_some]
    simp only [SourceAnswers.text?, SourceAnswers.value?, SourceAnswers.modernText?,
      SourceAnswers.visibleModern?] at hstudent hcampus ⊢
    rw [hstudent, hcampus, hdelegate]

/-- A profile does without the blank ids exactly if a record tells each of them. -/
theorem reconcile_withoutBlank_iff (uid : Uid) (legacy modern : Lookup AttributeBag)
    (data : Option UserData) (ctx : ViewContext) :
    reconcile uid ⟨legacy, modern, .found (ids.withoutBlank fs)⟩ data ctx =
        reconcile uid ⟨legacy, modern, .found ids⟩ data ctx ↔
      ∀ f id, ids.HasBlank fs f id → RecordTells ⟨legacy, modern, .found ids⟩ ctx f := by
  have hformat : ∀ {f id}, ids.HasBlank fs f id → f.format ≠ .boolean := by
    rintro f id ⟨-, hid, -⟩
    cases f <;> first | decide | cases hid
  have hsame := @reconcile_eq_iff_ids ids (ids.withoutBlank fs) rfl uid legacy modern data ctx
  rw [hsame]
  constructor
  · intro h f id hblank
    rw [recordTells_iff (hformat hblank)]
    intro hnone
    have hf := h f
    rw [hnone, Option.none_or, Option.none_or, hblank.2.1] at hf
    rcases ids.id?_withoutBlank_cases fs f with ⟨_, -, hdropped⟩ | ⟨hno, -⟩
    · cases hdropped.symm.trans hf
    · exact hno id hblank
  · intro h f
    rcases ids.id?_withoutBlank_cases fs f with ⟨id, hblank, -⟩ | ⟨-, hkept⟩
    · have htold := (recordTells_iff (hformat hblank)).1 (h f id hblank)
      obtain ⟨s, hs⟩ := Option.ne_none_iff_exists'.1 htold
      rw [hs, Option.some_or, Option.some_or]
    · rw [hkept]

/-! ### Grants -/

/-- An id grants nothing exactly if the first entry with it does not. -/
theorem getD_privilegesFor?_eq_none_iff (students : Lookup (List DelegateStudent)) (id : String) :
    (students.found?.bind fun list => privilegesFor? list id).getD .none = .none ↔
      ¬GrantsBy id students := by
  constructor
  · rintro h ⟨before, entry, after, rfl, hbefore, hid, hsome⟩
    have hfirst : privilegesFor? (before ++ entry :: after) id = some entry.privileges :=
      privilegesFor?_eq_some_iff.2 ⟨before, entry, after, rfl, hbefore, hid, rfl⟩
    exact hsome (by simpa [Lookup.found?, hfirst] using h)
  · intro h
    cases hfound : students.found?.bind fun list => privilegesFor? list id with
    | none => rfl
    | some privileges =>
      obtain ⟨list, hlist, hfirst⟩ := Option.bind_eq_some_iff.1 hfound
      obtain ⟨before, entry, after, rfl, hbefore, hid, rfl⟩ :=
        privilegesFor?_eq_some_iff.1 hfirst
      by_cases hnone : entry.privileges = .none
      · exact hnone
      · exact absurd ⟨before, entry, after, Lookup.found?_eq_some_iff.1 hlist, hbefore, hid,
          hnone⟩ h

/-- A delegate does without the blank ids exactly if none of them is found among the delegate's
students with something to see. -/
theorem privileges_withoutBlank_iff (students : Lookup (List DelegateStudent)) :
    (Resolution.of (.found (ids.withoutBlank fs)) students).privileges =
        (Resolution.of (.found ids) students).privileges ↔
      ∀ id, ids.HasBlank fs .campusSolutionsId id → ¬GrantsBy id students := by
  have hfound : ∀ ids : CorrelatedIds,
      (Lookup.found ids).found?.bind CorrelatedIds.campusSolutionsId = ids.id? .campusSolutionsId :=
    fun _ => rfl
  rw [Resolution.privileges_of, Resolution.privileges_of, hfound, hfound]
  rcases ids.id?_withoutBlank_cases fs .campusSolutionsId with ⟨id, hblank, hdropped⟩ | ⟨hno, hkept⟩
  · rw [hdropped, hblank.2.1, Option.bind_none, Option.getD_none, Option.bind_some, eq_comm,
      getD_privilegesFor?_eq_none_iff]
    constructor
    · rintro h id' ⟨-, hid', -⟩
      cases hblank.2.1.symm.trans hid'
      exact h
    · exact fun h => h id hblank
  · rw [hkept]
    exact ⟨fun _ id hblank => absurd hblank (hno id), fun _ => rfl⟩

/-- What is asked for a delegate is the crosswalk and the students. -/
theorem answer_resolve (settings : Settings) (delegate student : Uid) (c : Campus) :
    (resolve settings delegate student).answer c =
      if settings.flags.csDelegatedAccess = true then
        .of (c .crosswalk student) (c .delegateStudents delegate)
      else {} := by
  rw [resolve]
  split <;> rfl

/-! ### Both -/

/-- **When blank ids of the crosswalk count as missing.** A profile is the same without the blank
ids of some fields exactly if the visible modern record or the legacy record tells each of these
fields. What a delegate may see is the same exactly if delegates are switched off, or the blank id
is not the one by which grants are found, or the first entry with that id among the delegate's
students grants nothing. -/
theorem withoutBlank_iff (ids : CorrelatedIds) (fs : List Field) :
    (∀ uid legacy modern data ctx,
      reconcile uid ⟨legacy, modern, .found (ids.withoutBlank fs)⟩ data ctx =
          reconcile uid ⟨legacy, modern, .found ids⟩ data ctx ↔
        ∀ f id, ids.HasBlank fs f id → RecordTells ⟨legacy, modern, .found ids⟩ ctx f) ∧
      ∀ (settings : Settings) (delegate student : Uid) (c : Campus),
        ((resolve settings delegate student).answer
              (c.set .crosswalk student (.found (ids.withoutBlank fs)))).privileges =
            ((resolve settings delegate student).answer
              (c.set .crosswalk student (.found ids))).privileges ↔
          ∀ id, ids.HasBlank fs .campusSolutionsId id →
            ¬(settings.flags.csDelegatedAccess = true ∧
              GrantsBy id (c .delegateStudents delegate)) := by
  refine ⟨reconcile_withoutBlank_iff, ?_⟩
  intro settings delegate student c
  have hstudents : ∀ ids : CorrelatedIds, (c.set .crosswalk student (.found ids))
      .delegateStudents delegate = c .delegateStudents delegate := fun _ => rfl
  have hids : ∀ ids : CorrelatedIds, (c.set .crosswalk student (.found ids))
      .crosswalk student = .found ids := fun _ => by simp [Campus.set]
  rw [answer_resolve, answer_resolve, hstudents, hstudents, hids, hids]
  by_cases hflag : settings.flags.csDelegatedAccess = true
  · rw [if_pos hflag, if_pos hflag, privileges_withoutBlank_iff]
    simp only [hflag, true_and]
  · rw [if_neg hflag, if_neg hflag]
    exact ⟨fun _ _ _ h => hflag h.1, fun _ => rfl⟩

end

/-- A crosswalk record with blank ids, of which the second is no more than a blank. -/
def blankIds : CorrelatedIds := ⟨some "", some " ", none⟩

/-- Blank ids of the crosswalk are shown, a student with a blank student id is said to have one, and
a delegate sees the grades of a student with the same blank id. -/
theorem blankIds_shown_and_granted :
    let fs := [Field.studentId, .campusSolutionsId]
    let profile := fun ids =>
      reconcile ⟨"61889"⟩ ⟨.notFound, .notFound, .found ids⟩ none ⟨{}, false⟩
    let privileges := fun ids =>
      (Resolution.of (.found ids) (.found [⟨" ", none, none, { viewGrades := true }⟩])).privileges
    blankIds.HasBlank fs .studentId "" ∧ blankIds.HasBlank fs .campusSolutionsId " " ∧
      (profile blankIds).studentId = some "" ∧ (profile blankIds).noStudentId = false ∧
      (profile (blankIds.withoutBlank fs)).studentId = none ∧
      (profile (blankIds.withoutBlank fs)).noStudentId = true ∧
      (privileges blankIds).viewGrades = true ∧
      (privileges (blankIds.withoutBlank fs)).viewGrades = false := by
  intro fs profile privileges
  refine ⟨⟨by decide, rfl, by decide⟩, ⟨by decide, rfl, by decide⟩, by decide, by decide, by decide,
    by decide, by decide, by decide⟩

end CampusView
