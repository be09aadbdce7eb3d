import CampusView.Affiliation

/-!
# Roles of the student record

The roles of a list of affiliations depend on which types are listed as active and which as ended,
and on nothing else: not on the order of the affiliations, not on how often one is listed, and not
on those without a type or a status. `Licensed` says for each role when it is granted, and
`classifyAt_licensed` that these roles are granted and nothing else is recorded.

As time goes on affiliations only end. So every role that is granted on a day was granted on the
days before, but for that of a former student, who stays one.
-/

namespace CampusView

open Time

/-! ### What a list says -/

namespace Affiliation

/-- The affiliation has the active status, and no end that can be read comes before the day. -/
def ActiveOn (today : Date) (a : Affiliation) : Prop :=
  a.statusCode? = some activeStatus ∧ ∀ last, a.endDate? = some last → today ≤ last

/-- The affiliation has a type and a status. -/
def HasCodes (a : Affiliation) : Prop := a.typeCode? ≠ none ∧ a.statusCode? ≠ none

/-- Some affiliation of the list that has both codes is of this type, and is active on the day or
not. -/
def Listed (affiliations : List Affiliation) (today : Date) (code : String) (active : Bool) :
    Prop :=
  ∃ a ∈ affiliations, a.HasCodes ∧ a.typeCode? = some code ∧ (active = true ↔ a.ActiveOn today)

end Affiliation

/-- The type whose active affiliations grant a role. Being a student is decided apart. -/
def Role.type? : Role → Option String
  | .undergrad => some "UNDERGRAD"
  | .graduate => some "GRADUATE"
  | .law => some "LAW"
  | .faculty => some "INSTRUCTOR"
  | .advisor => some "ADVISOR"
  | .applicant => some "ADMT_UX"
  | _ => none

open Affiliation (Listed)

/-- When a list of affiliations grants a role. -/
def Licensed (affiliations : List Affiliation) (today : Date) : Role → Prop
  | .student => Listed affiliations today "STUDENT" true
  | .exStudent => (∃ active, Listed affiliations today "STUDENT" active) ∧
      ¬Listed affiliations today "STUDENT" true
  | r => ∃ code, r.type? = some code ∧ Listed affiliations today code true

section

variable {affiliations : List Affiliation} {today later : Date} {code : String} {r : Role}

/-! ### What is granted -/

theorem Affiliation.isActiveOn_iff (today : Date) (a : Affiliation) :
    a.isActiveOn today = true ↔ a.ActiveOn today := by
  rw [isActiveOn, ActiveOn, Bool.and_eq_true, beq_iff_eq, Option.all_eq_true]
  simp only [decide_eq_true_eq]

theorem Affiliation.mem_entries_iff {active : Bool} :
    (code, active) ∈ affiliations.filterMap (Affiliation.entry? today) ↔
      Listed affiliations today code active := by
  rw [List.mem_filterMap]
  constructor
  · rintro ⟨a, ha, hentry⟩
    obtain ⟨code', hcode, hentry⟩ := Option.bind_eq_some_iff.1 hentry
    obtain ⟨status, hstatus, hentry⟩ := Option.bind_eq_some_iff.1 hentry
    cases hentry
    exact ⟨a, ha, ⟨by simp [hcode], by simp [hstatus]⟩, hcode, a.isActiveOn_iff today⟩
  · rintro ⟨a, ha, ⟨-, hstatus⟩, hcode, hactive⟩
    obtain ⟨status, hstatus⟩ := Option.ne_none_iff_exists'.1 hstatus
    refine ⟨a, ha, ?_⟩
    have : a.isActiveOn today = active := by
      rw [Bool.eq_iff_iff, a.isActiveOn_iff, hactive]
    simp [Affiliation.entry?, hcode, hstatus, this]

theorem roleOfType?_eq_some_iff : roleOfType? code = some r ↔ r.type? = some code := by
  constructor
  · intro h
    unfold roleOfType? at h
    split at h <;> cases h <;> rfl
  · intro h
    cases r <;> cases h <;> rfl

/-- Whether a type is listed at all does not depend on the day. -/
theorem exists_listed_iff : (∃ active, Listed affiliations today code active) ↔
    ∃ a ∈ affiliations, a.HasCodes ∧ a.typeCode? = some code := by
  constructor
  · rintro ⟨active, a, ha, hcodes, hcode, -⟩
    exact ⟨a, ha, hcodes, hcode⟩
  · rintro ⟨a, ha, hcodes, hcode⟩
    exact ⟨a.isActiveOn today, a, ha, hcodes, hcode, a.isActiveOn_iff today⟩

/-- The roles of the types that are listed as active, as `classifyAt` collects them. -/
theorem mem_roles_iff : r ∈ (affiliations.filterMap (Affiliation.entry? today)).filterMap
      (fun (code, active) => if active then roleOfType? code else none) ↔
    ∃ code, r.type? = some code ∧ Listed affiliations today code true := by
  rw [List.mem_filterMap]
  simp only [Prod.exists, Affiliation.mem_entries_iff]
  constructor
  · rintro ⟨code, _ | _, hlisted, hrole⟩
    · cases hrole
    · exact ⟨code, roleOfType?_eq_some_iff.1 hrole, hlisted⟩
  · rintro ⟨code, hcode, hlisted⟩
    exact ⟨code, true, hlisted, roleOfType?_eq_some_iff.2 hcode⟩

/-- The roles that are granted are the licensed ones. -/
theorem grantsExactly_classifyAt (affiliations : List Affiliation) (today : Date) :
    (classifyAt affiliations today).GrantsExactly (Licensed affiliations today) := by
  have hstudent : ∀ active, (affiliations.filterMap (Affiliation.entry? today)).contains
      ("STUDENT", active) = true ↔ Listed affiliations today "STUDENT" active := fun active => by
    rw [List.contains_iff_mem, Affiliation.mem_entries_iff]
  refine (RoleSet.grantsExactly_ofList _).congr fun r => ?_
  -- being a student is put in front of the roles of active types
  by_cases hactive : Listed affiliations today "STUDENT" true
  · rw [if_pos ((hstudent true).2 hactive), List.mem_cons, mem_roles_iff]
    cases r <;> simp [Licensed, Role.type?, hactive]
  · rw [if_neg (mt (hstudent true).1 hactive)]
    by_cases hended : Listed affiliations today "STUDENT" false
    · rw [if_pos ((hstudent false).2 hended), List.mem_cons, mem_roles_iff]
      cases r <;> simp [Licensed, Role.type?, hactive, hended]
    · rw [if_neg (mt (hstudent false).1 hended), mem_roles_iff]
      cases r <;> simp [Licensed, Role.type?, hactive, hended]

/-! ### What the roles depend on -/

/-- The same roles are licensed by lists with the same types, active or not. -/
theorem licensed_congr {others : List Affiliation}
    (h : ∀ code active, Listed others today code active ↔ Listed affiliations today code active)
    (r : Role) : Licensed others today r ↔ Licensed affiliations today r := by
  cases r <;> simp only [Licensed, h]

/-- Affiliations without both codes list nothing, and the others list the same wherever they
stand. -/
theorem listed_congr {others : List Affiliation}
    (h : ∀ a, a.HasCodes → (a ∈ others ↔ a ∈ affiliations)) (code : String) (active : Bool) :
    Listed others today code active ↔ Listed affiliations today code active := by
  constructor
  · rintro ⟨a, ha, hcodes, hlisted⟩
    exact ⟨a, (h a hcodes).1 ha, hcodes, hlisted⟩
  · rintro ⟨a, ha, hcodes, hlisted⟩
    exact ⟨a, (h a hcodes).2 ha, hcodes, hlisted⟩

/-! ### As time goes on -/

/-- What is active on a day was active on the days before. -/
theorem listed_antitone (h : today ≤ later) (hlisted : Listed affiliations later code true) :
    Listed affiliations today code true := by
  obtain ⟨a, ha, hcodes, hcode, hactive⟩ := hlisted
  obtain ⟨hstatus, hend⟩ := hactive.1 rfl
  refine ⟨a, ha, hcodes, hcode, fun _ => ⟨hstatus, fun last hlast => ?_⟩, fun _ => rfl⟩
  exact Int.le_trans h (hend last hlast)

/-- A role other than that of a former student was licensed before. -/
theorem licensed_antitone (h : today ≤ later) (hr : r ≠ .exStudent)
    (hlicensed : Licensed affiliations later r) : Licensed affiliations today r := by
  cases r with
  | student => exact listed_antitone h hlicensed
  | exStudent => exact absurd rfl hr
  | _ =>
    obtain ⟨code, hcode, hlisted⟩ := hlicensed
    exact ⟨code, hcode, listed_antitone h hlisted⟩

/-- A former student stays one. -/
theorem licensed_exStudent_mono (h : today ≤ later)
    (hlicensed : Licensed affiliations today .exStudent) :
    Licensed affiliations later .exStudent := by
  obtain ⟨hlisted, hended⟩ := hlicensed
  exact ⟨exists_listed_iff.2 (exists_listed_iff.1 hlisted), fun hactive =>
    hended (listed_antitone h hactive)⟩

/-- **The roles of the student record.** Exactly the licensed roles are granted, and nothing is
recorded about the others. They depend only on which types are listed, active or not; so they are
the same for any two lists that have the same affiliations with both codes, in whatever order, how
often and between whatever others. As time goes on every role but that of a former student is only
lost, and that one is only gained. -/
theorem classifyAt_licensed (affiliations : List Affiliation) (today : Date) :
    (classifyAt affiliations today).GrantsExactly (Licensed affiliations today) ∧
      (∀ others,
        (∀ code active, Listed others today code active ↔ Listed affiliations today code active) →
          classifyAt others today = classifyAt affiliations today) ∧
      (∀ others : List Affiliation, (∀ a, a.HasCodes → (a ∈ others ↔ a ∈ affiliations)) →
        classifyAt others today = classifyAt affiliations today) ∧
      ∀ later, today ≤ later →
        (∀ r, r ≠ .exStudent → (classifyAt affiliations later).get r = true →
            (classifyAt affiliations today).get r = true) ∧
          ((classifyAt affiliations today).get .exStudent = true →
            (classifyAt affiliations later).get .exStudent = true) := by
  have hgrants := grantsExactly_classifyAt affiliations
  refine ⟨hgrants today, ?_, ?_, ?_⟩
  · intro others h
    exact (grantsExactly_classifyAt others today).eq (hgrants today) (licensed_congr h)
  · intro others h
    exact (grantsExactly_classifyAt others today).eq (hgrants today)
      (licensed_congr (listed_congr h))
  · intro later hlater
    simp only [(hgrants today).get_iff, (hgrants later).get_iff]
    exact ⟨fun r => licensed_antitone hlater, licensed_exStudent_mono hlater⟩

end

/-- A student until the winter of 2015 who teaches. -/
def teachingStudent : List Affiliation := [
  { type := some { code := some "student" }, status := some { code := some "ACT" },
    toDate := some "2015-12-18" },
  { type := some { code := some "INSTRUCTOR" }, status := some { code := some " act " } }]

/-- The same affiliations backwards, one of them twice, with one between them that has no status. -/
def teachingStudentAgain : List Affiliation :=
  teachingStudent.reverse ++ { type := some { code := some "LAW" } } :: teachingStudent.tail

/-- The day after the end makes a former student, who stays one and teaches on. -/
theorem classifyAt_licensed_teachingStudent :
    let today : Date := ⟨2015, 12, 19, by decide⟩
    let later : Date := ⟨2016, 3, 1, by decide⟩
    today ≤ later ∧
      (∀ a, a.HasCodes → (a ∈ teachingStudentAgain ↔ a ∈ teachingStudent)) ∧
      classifyAt teachingStudentAgain today = classifyAt teachingStudent today ∧
      (classifyAt teachingStudent today).get .exStudent = true ∧
      (classifyAt teachingStudent later).get .exStudent = true ∧
      (classifyAt teachingStudent later).get .faculty = true ∧
      (classifyAt teachingStudent today).get .faculty = true ∧
      (classifyAt teachingStudent today).recorded .student = none := by
  intro today later
  obtain ⟨-, -, hsame, htime⟩ := classifyAt_licensed teachingStudent today
  obtain ⟨hlost, hgained⟩ := htime later (by decide)
  have hformer : (classifyAt teachingStudent today).get .exStudent = true := by decide +kernel
  have hteaches : (classifyAt teachingStudent later).get .faculty = true := by decide +kernel
  have hmembers : ∀ a, a.HasCodes → (a ∈ teachingStudentAgain ↔ a ∈ teachingStudent) := by
    intro a ha
    have hstatus : a ≠ { type := some { code := some "LAW" } } := by
      rintro rfl
      exact ha.2 rfl
    simp only [teachingStudentAgain, teachingStudent, List.mem_append, List.mem_reverse,
      List.mem_cons, List.tail_cons, hstatus, false_or]
    exact or_iff_left_of_imp .inr
  exact ⟨by decide, hmembers, hsame _ hmembers, hformer, hgained hformer, hteaches,
    hlost .faculty (by decide) hteaches, by decide +kernel⟩

end CampusView
