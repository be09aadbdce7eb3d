import CampusView.LegacyRecord
import CampusView.Profile

/-!
# Which record decides about a role

The legacy record gives a flag for a role by its own map, and its directory entry can only add to
them (`recorded_bagAt`). The modern record decides about the roles on which it is trusted, if it is
visible and records them, and a former student of the legacy record is no student whatever it says
(`recorded_mergeRoles`). `roles_of_records` puts the two together, from the raw legacy record to the
profile.
-/

namespace CampusView

open Json Time

/-- The modern record is visible, and records this flag for a role. -/
def ModernRecords (ctx : ViewContext) (modern : Lookup AttributeBag) (r : Role) (held : Bool) :
    Prop :=
  sisProfileVisible ctx modern = true ∧
    ∃ bag, modern = .found bag ∧ bag.roles.recorded r = some held

/-! ### The legacy record -/

namespace LegacyRecord

variable {record : Members} {now : Instant} {r : Role}

/-- The directory entry adds the roles it grants, and the other flags stay. -/
theorem recorded_bagAt (record : Members) (now : Instant) (r : Role) :
    (bagAt record now).roles.recorded r =
      if (directory? record).any fun entry => (classifyDirectoryAt entry now).get r then some true
      else (ownRoles record).recorded r := by
  show (rolesAt record now).recorded r = _
  unfold rolesAt
  cases directory? record with
  | none => rfl
  | some entry => rfl

theorem recorded_ownRoles {roleMap : Members} (h : record.lookup "roles" = some (.object roleMap)) :
    (ownRoles record).recorded r = (roleMap.lookup r.name).bind Value.toBool? := by
  rw [ownRoles, h]
  rfl

/-- A role that the record's own map grants is granted. -/
theorem get_bagAt_of_roleMap {roleMap : Members}
    (hmap : record.lookup "roles" = some (.object roleMap))
    (hrole : roleMap.lookup r.name = some (.bool true)) :
    (bagAt record now).roles.get r = true := by
  have hown : (ownRoles record).recorded r = some true := by
    rw [recorded_ownRoles hmap, hrole]
    rfl
  rw [RoleSet.get, recorded_bagAt, hown, ite_self]
  rfl

end LegacyRecord

/-! ### Both records -/

section

variable {legacy : RoleSet} {r : Role}

/-- What both records make of a role before former students are looked at. -/
def overlaid (legacy : RoleSet) (modern : Option RoleSet) (r : Role) : Option Bool :=
  if r ∈ Role.modernWhitelist then (modern.bind fun m => m.recorded r).or (legacy.recorded r)
  else legacy.recorded r

/-- A former student of the legacy record is no student. Else the modern record decides about the
roles on which it is trusted, as far as it records them, and the legacy record about the others. -/
theorem recorded_mergeRoles (legacy : RoleSet) (modern : Option RoleSet) (r : Role) :
    (mergeRoles legacy modern).recorded r =
      if r = .student ∧ legacy.get .exStudent = true then some false
      else overlaid legacy modern r := by
  -- the modern record does not say who is a former student
  have hformer : ∀ trusted : RoleSet,
      (legacy.overlay trusted Role.modernWhitelist).get .exStudent = legacy.get .exStudent :=
    fun _ => rfl
  unfold mergeRoles overlaid
  by_cases hex : legacy.get .exStudent = true
  · cases modern <;> by_cases hr : r = .student <;> simp [hformer, hex, hr]
  · cases modern <;> simp [hformer, hex]

variable {modern : Option RoleSet}

theorem overlaid_of_mem (h : r ∈ [Role.student, .applicant, .advisor]) :
    overlaid legacy modern r = (modern.bind fun m => m.recorded r).or (legacy.recorded r) :=
  if_pos h

theorem overlaid_of_not_mem (h : r ∉ [Role.student, .applicant, .advisor]) :
    overlaid legacy modern r = legacy.recorded r :=
  if_neg h

/-- Nobody is both a student and a former student. -/
theorem not_student_and_exStudent (legacy : RoleSet) (modern : Option RoleSet) :
    ¬((mergeRoles legacy modern).get .student = true ∧
      (mergeRoles legacy modern).get .exStudent = true) := by
  rintro ⟨hstudent, hex⟩
  have hlegacy : legacy.get .exStudent = true := by
    rwa [RoleSet.get, recorded_mergeRoles, if_neg (by simp), overlaid_of_not_mem (by decide)] at hex
  rw [RoleSet.get, recorded_mergeRoles, if_pos ⟨rfl, hlegacy⟩] at hstudent
  cases hstudent

end

/-- What a visible modern record records about a role. -/
theorem recorded_visibleModern?_eq_some_iff (answers : SourceAnswers) (ctx : ViewContext) (r : Role)
    (held : Bool) :
    (((answers.visibleModern? ctx).map AttributeBag.roles).bind fun m => m.recorded r) =
      some held ↔ ModernRecords ctx answers.modern r held := by
  unfold SourceAnswers.visibleModern? ModernRecords
  cases sisProfileVisible ctx answers.modern <;> cases answers.modern <;> simp [Lookup.found?]

/-- **Who decides about a role.** Nobody is both a student and a former student, and a former
student of the legacy record is recorded as no student. Apart from that a visible modern record
decides about students, applicants and advisors, also that somebody is none, as far as it records
them; else the flags of the legacy record stay as they are, with none where it has none. Its
directory entry takes nothing away of what its own map grants. -/
theorem roles_of_records (record : Members) (now : Instant) (uid : Uid)
    (modern : Lookup AttributeBag) (crosswalk : Lookup CorrelatedIds) (data : Option UserData)
    (flags : FeatureFlags) (auth : Authentication) :
    let bag := LegacyRecord.bagAt record now
    let ctx := ViewContext.of flags auth
    let roles := (reconcile uid ⟨.found bag, modern, crosswalk⟩ data ctx).roles
    ¬(roles.get .student = true ∧ roles.get .exStudent = true) ∧
      (bag.roles.get .exStudent = true → roles.recorded .student = some false) ∧
      (∀ r ∈ [Role.student, .applicant, .advisor],
        ¬(r = .student ∧ bag.roles.get .exStudent = true) →
          (∀ held, ModernRecords ctx modern r held → roles.recorded r = some held) ∧
          ((¬∃ held, ModernRecords ctx modern r held) →
            roles.recorded r = bag.roles.recorded r)) ∧
      (∀ r, r ∉ [Role.student, .applicant, .advisor] →
        roles.recorded r = bag.roles.recorded r) ∧
      ∀ roleMap r, record.lookup "roles" = some (.object roleMap) →
        roleMap.lookup r.name = some (.bool true) → bag.roles.get r = true := by
  intro bag ctx roles
  let answers : SourceAnswers := ⟨.found bag, modern, crosswalk⟩
  have hroles : roles =
      mergeRoles bag.roles ((answers.visibleModern? ctx).map AttributeBag.roles) := rfl
  have hmodern := recorded_visibleModern?_eq_some_iff answers ctx
  refine ⟨?_, ?_, ?_, ?_, ?_⟩
  · rw [hroles]
    exact not_student_and_exStudent _ _
  · intro hex
    rw [hroles, recorded_mergeRoles, if_pos ⟨rfl, hex⟩]
  · intro r hr hformer
    rw [hroles, recorded_mergeRoles, if_neg hformer, overlaid_of_mem hr]
    refine ⟨fun held hheld => ?_, fun hnone => ?_⟩
    · rw [(hmodern r held).2 hheld, Option.some_or]
    · have hunrecorded := Option.eq_none_iff_forall_ne_some.2 fun held hheld =>
        hnone ⟨held, (hmodern r held).1 hheld⟩
      rw [hunrecorded, Option.none_or]
  · intro r hr
    have hstudent : r ≠ .student := fun h => hr (h ▸ List.mem_cons_self)
    rw [hroles, recorded_mergeRoles, if_neg fun h => hstudent h.1,
      overlaid_of_not_mem hr]
  · intro roleMap r
    exact LegacyRecord.get_bagAt_of_roleMap

/-- A legacy record whose own map has a student, and whose directory entry has expired. -/
def formerStudent : Members := [
  ("directory", .object [("affiliations", .array [.string "STUDENT-STATUS-EXPIRED"])]),
  ("roles", .object [("advisor", .bool true), ("registered", .bool false),
    ("student", .bool true)])]

/-- A visible modern record of a student who is no advisor. -/
def modernStudent : AttributeBag :=
  { AttributeBag.empty with roles := (RoleSet.ofList [.student]).set .advisor false }

/-- Noon on the first day of 2014. -/
def newYear2014 : Instant := ⟨⟨2014, 1, 1, by decide⟩, ⟨43200, 0, by decide⟩⟩

/-- The former student is no student though the own map and the modern record say so. The modern
record decides about the advisor, nobody records an applicant, and who is not registered stays
so. -/
theorem roles_of_records_formerStudent :
    let bag := LegacyRecord.bagAt formerStudent newYear2014
    let ctx := ViewContext.of { csProfileVisibleForLegacyUsers := true } {}
    let roles := (reconcile ⟨"61889"⟩ ⟨.found bag, .found modernStudent, .notFound⟩ none ctx).roles
    bag.roles.get .exStudent = true ∧ bag.roles.get .student = true ∧
      roles.recorded .student = some false ∧ roles.recorded .advisor = some false ∧
      roles.recorded .applicant = none ∧ roles.recorded .registered = some false := by
  intro bag ctx roles
  obtain ⟨-, hstudent, hdecided, hkept, hown⟩ := roles_of_records formerStudent newYear2014
    ⟨"61889"⟩ (.found modernStudent) .notFound none { csProfileVisibleForLegacyUsers := true } {}
  have hex : bag.roles.get .exStudent = true := by decide +kernel
  have hvisible : sisProfileVisible ctx (.found modernStudent) = true := rfl
  refine ⟨hex, hown _ .student rfl rfl, hstudent hex, ?_, ?_, ?_⟩
  · exact (hdecided .advisor (by decide) (by simp)).1 false ⟨hvisible, modernStudent, rfl, rfl⟩
  · rw [(hdecided .applicant (by decide) (by simp)).2 ?_]
    · decide +kernel
    · rintro ⟨held, -, found, hfound, hheld⟩
      cases hfound
      cases hheld
  · rw [hkept .registered (by decide)]
    decide +kernel

end CampusView
