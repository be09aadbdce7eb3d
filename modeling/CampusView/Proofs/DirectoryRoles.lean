import CampusView.Directory

/-!
# Roles of the directory

A record of the directory is read as four categories and a list of groups. What a category grants
depends on its own strings and on those of its expiration times that can be read
(`Agrees.grants_iff`), not on where they stand or how often, and each string is of one category at
most (`Owns.unique`). So the categories do not disturb each other.

A category that is marked as expired can only end as time goes on. With it the roles of its types
end, and a student becomes a former one for good.
-/

namespace CampusView

open Time

/-! ### What a record says -/

/-- Among these expiration times one can be read as `t`. -/
def Expires (raws : List String) (t : Instant) : Prop := ∃ raw ∈ raws, parseExpiration raw = .ok t

/-- The last of these expiration times that can be read is `t`. -/
def LastExpires (raws : List String) (t : Instant) : Prop :=
  Expires raws t ∧ ∀ u, Expires raws u → u ≤ t

namespace Category

/-- The record has a type of this name in the category. -/
def HasType (record : DirectoryRecord) (c : Category) (name : String) : Prop :=
  ∃ a ∈ record.affiliations, Text.trim a = c.label ++ "-TYPE-" ++ name

/-- The record has the mark of the end of the category. -/
def MarkedExpired (record : DirectoryRecord) (c : Category) : Prop :=
  ∃ a ∈ record.affiliations, Text.trim a = c.label ++ "-STATUS-EXPIRED"

/-- The string is a type of the category or the mark of its end. -/
def Owns (c : Category) (a : String) : Prop :=
  (∃ name, Text.trim a = c.label ++ "-TYPE-" ++ name) ∨ Text.trim a = c.label ++ "-STATUS-EXPIRED"

/-- The category is not marked as expired, or it has a type and does not expire by `now`. -/
def ActiveAt (record : DirectoryRecord) (now : Instant) (c : Category) : Prop :=
  c.MarkedExpired record →
    (∃ name, c.HasType record name) ∧ ∀ t, LastExpires (c.expirations record) t → now < t

/-- What a category grants: the roles of its types while it is active. The category of the students
grants that of a former student when it is not. -/
def Grants (record : DirectoryRecord) (now : Instant) (c : Category) (r : Role) : Prop :=
  (c.ActiveAt record now ∧ ∃ name, c.HasType record name ∧ r ∈ c.rolesOfType name) ∨
    (¬c.ActiveAt record now ∧ c = student ∧ r = .exStudent)

/-- Two records have the same strings of the category, and the same of its expiration times that can
be read. -/
def Agrees (c : Category) (record other : DirectoryRecord) : Prop :=
  (∀ a, c.Owns a → (a ∈ other.affiliations ↔ a ∈ record.affiliations)) ∧
    ∀ t, Expires (c.expirations other) t ↔ Expires (c.expirations record) t

/-- Two records differ at most in the strings and the expiration times of the category. -/
def AgreesOutside (c : Category) (record other : DirectoryRecord) : Prop :=
  (∀ a, ¬c.Owns a → (a ∈ other.affiliations ↔ a ∈ record.affiliations)) ∧
    ∀ d, d ≠ c → ∀ t, Expires (d.expirations other) t ↔ Expires (d.expirations record) t

end Category

/-- The category that a role is of. The others are no roles of categories. -/
def Role.category? : Role → Option Category
  | .student | .registered | .exStudent => some .student
  | .staff | .faculty => some .employee
  | .concurrentEnrollmentStudent => some .affiliate
  | .guest => some .guest
  | _ => none

/-- The population of the official student lists that a role is of. -/
def Role.population? : Role → Option String
  | .student => some "all"
  | .undergrad => some "undergrad"
  | .graduate => some "graduate"
  | .law => some "law"
  | _ => none

/-- What a record grants: what its categories do, and the roles of the populations of its groups. -/
def DirectoryRecord.Entitles (record : DirectoryRecord) (now : Instant) (r : Role) : Prop :=
  (∃ c : Category, c.Grants record now r) ∨
    ∃ g ∈ record.groups, ∃ population, populationOf? g = some population ∧
      r.population? = some population

section

variable {record other : DirectoryRecord} {now after : Instant} {c d : Category} {r : Role}

/-! ### The last expiration time -/

theorem later_eq_or (a b : Instant) : later a b = a ∨ later a b = b := by
  unfold later
  split
  · exact .inr rfl
  · exact .inl rfl

theorem le_later (a b : Instant) : a ≤ later a b ∧ b ≤ later a b := by
  unfold later
  split
  · next h => exact ⟨h, Int.le_refl _⟩
  · next h => exact ⟨Int.le_refl _, Int.le_of_lt (Int.not_le.1 h)⟩

theorem foldl_later_mem (t : Instant) (ts : List Instant) : ts.foldl later t ∈ t :: ts := by
  induction ts generalizing t with
  | nil => exact List.mem_cons_self
  | cons u us ih =>
    rw [List.foldl_cons]
    rcases List.mem_cons.1 (ih (later t u)) with h | h
    · rw [h]
      rcases later_eq_or t u with htu | htu <;> simp [htu]
    · exact List.mem_cons_of_mem _ (List.mem_cons_of_mem _ h)

theorem le_foldl_later (t : Instant) (ts : List Instant) : ∀ u ∈ t :: ts, u ≤ ts.foldl later t := by
  induction ts generalizing t with
  | nil => exact List.forall_mem_singleton.2 (Int.le_refl _)
  | cons u us ih =>
    obtain ⟨hlater, hus⟩ := List.forall_mem_cons.1 (ih (later t u))
    obtain ⟨ht, hu⟩ := le_later t u
    exact List.forall_mem_cons.2
      ⟨Int.le_trans ht hlater, List.forall_mem_cons.2 ⟨Int.le_trans hu hlater, hus⟩⟩

theorem mem_readable_iff {raws : List String} {t : Instant} :
    (t ∈ raws.filterMap fun raw => (parseExpiration raw).toOption) ↔ Expires raws t := by
  rw [List.mem_filterMap]
  refine exists_congr fun raw => and_congr_right fun _ => ?_
  cases parseExpiration raw <;> simp [Except.toOption]

/-- The last expiration is in the future, if there is one. -/
theorem all_latestExpiration?_iff {raws : List String} :
    ((latestExpiration? raws).all fun t => decide (now < t)) = true ↔
      ∀ t, LastExpires raws t → now < t := by
  simp only [LastExpires, ← mem_readable_iff, latestExpiration?]
  cases raws.filterMap fun raw => (parseExpiration raw).toOption with
  | nil => simp
  | cons t ts =>
    simp only [Option.all_some, decide_eq_true_eq]
    constructor
    · intro h u hu
      exact Int.lt_of_lt_of_le h (hu.2 _ (foldl_later_mem t ts))
    · intro h
      exact h _ ⟨foldl_later_mem t ts, le_foldl_later t ts⟩

/-! ### What is granted -/

namespace Category

theorem mem_types_iff {name : String} : name ∈ c.types record ↔ c.HasType record name := by
  simp only [types, List.mem_filterMap, Text.stripStart?_eq_some_iff, HasType]

theorem isMarkedExpired_iff : c.isMarkedExpired record = true ↔ c.MarkedExpired record := by
  simp only [isMarkedExpired, List.any_eq_true, beq_iff_eq, MarkedExpired]

theorem isActiveAt_iff : c.isActiveAt record now = true ↔ c.ActiveAt record now := by
  have htypes : (!(c.types record).isEmpty) = true ↔ ∃ name, c.HasType record name := by
    simp only [← mem_types_iff, Bool.not_eq_true', List.isEmpty_eq_false_iff_exists_mem]
  rw [isActiveAt, Bool.or_eq_true, Bool.and_eq_true, htypes, all_latestExpiration?_iff, ActiveAt,
    ← isMarkedExpired_iff]
  cases c.isMarkedExpired record <;> simp

/-- A category has the mark of its end, and ends for want of a type or by its last expiration. -/
theorem not_activeAt_iff : ¬c.ActiveAt record now ↔ c.MarkedExpired record ∧
    ((¬∃ name, c.HasType record name) ∨
      ∃ t, LastExpires (c.expirations record) t ∧ t ≤ now) := by
  rw [ActiveAt, Classical.not_imp, Classical.not_and_iff_not_or_not]
  simp only [Classical.not_forall]
  exact and_congr_right fun _ => or_congr_right
    (exists_congr fun t => exists_prop.trans (and_congr_right fun _ => Int.not_lt))

theorem mem_rolesAt_iff : r ∈ c.rolesAt record now ↔ c.Grants record now r := by
  rw [rolesAt, Grants, ← isActiveAt_iff]
  by_cases hactive : c.isActiveAt record now = true
  · rw [if_pos hactive, List.mem_flatMap]
    simp only [mem_types_iff, hactive, true_and, not_true_eq_false, false_and, or_false]
  · rw [if_neg hactive]
    by_cases hstudent : c = student
    · subst hstudent
      simp [hactive]
    · simp [hactive, hstudent]

theorem mem_all (c : Category) : c ∈ all := by
  cases c <;> decide

end Category

theorem roleOfPopulation?_eq_some_iff {population : String} :
    roleOfPopulation? population = some r ↔ r.population? = some population := by
  constructor
  · intro h
    unfold roleOfPopulation? at h
    split at h <;> cases h <;> rfl
  · intro h
    cases r <;> cases h <;> rfl

/-- The roles that are granted are those that the record entitles to. -/
theorem grantsExactly_classifyDirectoryAt (record : DirectoryRecord) (now : Instant) :
    (classifyDirectoryAt record now).GrantsExactly (record.Entitles now) := by
  refine ((RoleSet.grantsExactly_ofList _).extendGranted (RoleSet.grantsExactly_ofList _)).congr
    fun r => or_congr ?_ ?_
  · simp only [List.mem_flatMap, Category.mem_all, true_and, Category.mem_rolesAt_iff]
  · simp only [List.mem_filterMap, Option.bind_eq_some_iff, roleOfPopulation?_eq_some_iff]

/-! ### What the roles depend on -/

namespace Category

theorem Agrees.hasType_iff (h : c.Agrees record other) (name : String) :
    c.HasType other name ↔ c.HasType record name :=
  exists_congr fun a => and_congr_left fun ha => h.1 a (.inl ⟨name, ha⟩)

theorem Agrees.markedExpired_iff (h : c.Agrees record other) :
    c.MarkedExpired other ↔ c.MarkedExpired record :=
  exists_congr fun a => and_congr_left fun ha => h.1 a (.inr ha)

theorem Agrees.activeAt_iff (h : c.Agrees record other) :
    c.ActiveAt other now ↔ c.ActiveAt record now := by
  simp only [ActiveAt, LastExpires, h.markedExpired_iff, h.hasType_iff, h.2]

/-- What a category grants depends on its own strings and times. -/
theorem Agrees.grants_iff (h : c.Agrees record other) :
    c.Grants other now r ↔ c.Grants record now r := by
  simp only [Grants, h.activeAt_iff, h.hasType_iff]

theorem label_append_injective {s t : String} (h : c.label ++ s = d.label ++ t) : c = d := by
  have hhead := congrArg (fun u : String => u.toList.head?) h
  simp only [String.toList_append] at hhead
  cases c <;> cases d <;> simp [label] at hhead ⊢

/-- A string is of one category at most. -/
theorem Owns.unique {a : String} (hc : c.Owns a) (hd : d.Owns a) : c = d := by
  have hlabel : ∀ {e : Category}, e.Owns a → ∃ s, Text.trim a = e.label ++ s := by
    rintro e (⟨name, h⟩ | h)
    · exact ⟨_, h.trans (String.append_assoc ..)⟩
    · exact ⟨_, h⟩
  obtain ⟨s, hs⟩ := hlabel hc
  obtain ⟨t, ht⟩ := hlabel hd
  exact label_append_injective (hs.symm.trans ht)

theorem AgreesOutside.agrees (h : c.AgreesOutside record other) (hd : d ≠ c) :
    d.Agrees record other :=
  ⟨fun a ha => h.1 a fun hc => hd (ha.unique hc), h.2 d hd⟩

theorem category?_of_mem_rolesOfType {name : String} : ∀ r ∈ c.rolesOfType name,
    r.category? = some c := by
  unfold rolesOfType
  split <;> simp [Role.category?]

theorem Grants.category?_eq (h : c.Grants record now r) : r.category? = some c := by
  rcases h with ⟨-, name, -, hr⟩ | ⟨-, rfl, rfl⟩
  · exact category?_of_mem_rolesOfType r hr
  · rfl

end Category

namespace DirectoryRecord

theorem entitles_congr (hgroups : ∀ g, g ∈ other.groups ↔ g ∈ record.groups)
    (h : ∀ c : Category, c.Grants other now r ↔ c.Grants record now r) :
    other.Entitles now r ↔ record.Entitles now r :=
  or_congr (exists_congr h) (exists_congr fun g => and_congr_left fun _ => hgroups g)

/-- A category does not disturb the roles of another. -/
theorem entitles_iff_of_agreesOutside (hgroups : ∀ g, g ∈ other.groups ↔ g ∈ record.groups)
    (h : c.AgreesOutside record other) (hr : r.category? ≠ some c) :
    other.Entitles now r ↔ record.Entitles now r := by
  refine entitles_congr hgroups fun d => ?_
  by_cases hd : d = c
  · subst hd
    exact iff_of_false (fun hother => hr hother.category?_eq) fun hrecord => hr hrecord.category?_eq
  · exact (h.agrees hd).grants_iff

/-! ### Former students -/

theorem entitles_exStudent_iff :
    record.Entitles now .exStudent ↔ ¬Category.student.ActiveAt record now := by
  constructor
  · rintro (⟨c, ⟨-, name, -, hr⟩ | ⟨hended, rfl, -⟩⟩ | ⟨g, -, population, -, hr⟩)
    · unfold Category.rolesOfType at hr
      split at hr <;> simp at hr
    · exact hended
    · cases hr
  · intro hended
    exact .inl ⟨.student, .inr ⟨hended, rfl, rfl⟩⟩

/-- A former student is a student only by a group of all students. -/
theorem exists_group_of_entitles (hstudent : record.Entitles now .student)
    (hformer : record.Entitles now .exStudent) :
    ∃ g ∈ record.groups, populationOf? g = some "all" := by
  rcases hstudent with ⟨c, hgrants⟩ | ⟨g, hg, population, hpopulation, hr⟩
  · cases hgrants.category?_eq
    rcases hgrants with ⟨hactive, -⟩ | ⟨-, -, hr⟩
    · exact absurd hactive (entitles_exStudent_iff.1 hformer)
    · cases hr
  · cases hr
    exact ⟨g, hg, hpopulation⟩

end DirectoryRecord

/-! ### As time goes on -/

/-- A category that is active was so before. -/
theorem Category.activeAt_antitone (h : now ≤ after) (hactive : c.ActiveAt record after) :
    c.ActiveAt record now := by
  intro hmarked
  obtain ⟨htype, hlast⟩ := hactive hmarked
  exact ⟨htype, fun t ht => Int.lt_of_le_of_lt h (hlast t ht)⟩

/-- A role other than that of a former student was granted before. -/
theorem DirectoryRecord.entitles_antitone (h : now ≤ after) (hr : r ≠ .exStudent)
    (hentitles : record.Entitles after r) : record.Entitles now r := by
  rcases hentitles with ⟨c, ⟨hactive, htypes⟩ | ⟨-, -, hformer⟩⟩ | hgroup
  · exact .inl ⟨c, .inl ⟨Category.activeAt_antitone h hactive, htypes⟩⟩
  · exact absurd hformer hr
  · exact .inr hgroup

/-- A former student stays one. -/
theorem DirectoryRecord.entitles_exStudent_mono (h : now ≤ after)
    (hentitles : record.Entitles now .exStudent) : record.Entitles after .exStudent := by
  rw [entitles_exStudent_iff] at hentitles ⊢
  exact mt (Category.activeAt_antitone h) hentitles

/-- **The roles of the directory.** A record grants exactly what its categories and groups entitle
to. It is read up to the order and the number of its strings, times and groups, and up to strings of
no category and times that cannot be read. What belongs to a category has a say in its own roles
only. A former student is one whose category is marked as expired, without a type or past the last
expiration; such a student is still a student only by a group. As time goes on every role but that
of a former student is only lost, and that one is only gained. -/
theorem classifyDirectoryAt_entitles (record : DirectoryRecord) (now : Instant) :
    (classifyDirectoryAt record now).GrantsExactly (record.Entitles now) ∧
      (∀ other : DirectoryRecord, (∀ c : Category, c.Agrees record other) →
        (∀ g, g ∈ other.groups ↔ g ∈ record.groups) →
          classifyDirectoryAt other now = classifyDirectoryAt record now) ∧
      (∀ (c : Category) (other : DirectoryRecord), c.AgreesOutside record other →
        (∀ g, g ∈ other.groups ↔ g ∈ record.groups) → ∀ r : Role, r.category? ≠ some c →
          (classifyDirectoryAt other now).recorded r =
            (classifyDirectoryAt record now).recorded r) ∧
      ((classifyDirectoryAt record now).get .student = true →
        (classifyDirectoryAt record now).get .exStudent = true →
          ∃ g ∈ record.groups, populationOf? g = some "all") ∧
      ((classifyDirectoryAt record now).get .exStudent = true ↔
        Category.student.MarkedExpired record ∧
          ((¬∃ name, Category.student.HasType record name) ∨
            ∃ t, LastExpires record.studentExpirations t ∧ t ≤ now)) ∧
      ∀ after, now ≤ after →
        (∀ r, r ≠ .exStudent → (classifyDirectoryAt record after).get r = true →
            (classifyDirectoryAt record now).get r = true) ∧
          ((classifyDirectoryAt record now).get .exStudent = true →
            (classifyDirectoryAt record after).get .exStudent = true) := by
  have hgrants := grantsExactly_classifyDirectoryAt record
  refine ⟨hgrants now, ?_, ?_, ?_, ?_, ?_⟩
  · intro other hagrees hgroups
    exact (grantsExactly_classifyDirectoryAt other now).eq (hgrants now) fun r =>
      DirectoryRecord.entitles_congr hgroups fun c => (hagrees c).grants_iff
  · intro c other hagrees hgroups r hr
    exact (grantsExactly_classifyDirectoryAt other now).recorded_eq (hgrants now)
      (DirectoryRecord.entitles_iff_of_agreesOutside hgroups hagrees hr)
  · rw [(hgrants now).get_iff, (hgrants now).get_iff]
    exact DirectoryRecord.exists_group_of_entitles
  · rw [(hgrants now).get_iff, DirectoryRecord.entitles_exStudent_iff, Category.not_activeAt_iff]
    rfl
  · intro after hafter
    simp only [(hgrants now).get_iff, (hgrants after).get_iff]
    exact ⟨fun r => DirectoryRecord.entitles_antitone hafter,
      DirectoryRecord.entitles_exStudent_mono hafter⟩

end

/-- A student who works for the university. Both categories are marked as expired, and the students'
has ended in 2014. -/
def workingStudent : DirectoryRecord where
  affiliations := ["EMPLOYEE-TYPE-STAFF", "EMPLOYEE-STATUS-EXPIRED", "STUDENT-TYPE-REGISTERED",
    " STUDENT-STATUS-EXPIRED"]
  employeeExpirations := ["20150901145959Z"]
  studentExpirations := ["20140901145959Z"]

/-- The same record in another order, with a string of no category and a time that cannot be
read. -/
def workingStudentAgain : DirectoryRecord where
  affiliations := "STUDENT-STATUS-ACTIVE" :: workingStudent.affiliations.reverse
  employeeExpirations := ["20150901145959Z", "20150901145959Z"]
  studentExpirations := ["never", "20140901145959Z"]

/-- The record without the strings and the times of the employees. -/
def notWorkingStudent : DirectoryRecord where
  affiliations := workingStudent.affiliations.drop 2
  studentExpirations := workingStudent.studentExpirations

theorem workingStudentAgain_agrees (c : Category) :
    c.Agrees workingStudent workingStudentAgain := by
  constructor
  · intro a ha
    have hactive : a ≠ "STUDENT-STATUS-ACTIVE" := by
      rintro rfl
      rcases ha with ⟨name, h⟩ | h
      · have hnone : Text.stripStart? (c.label ++ "-TYPE-") (Text.trim "STUDENT-STATUS-ACTIVE") =
            none := by
          cases c <;> decide +kernel
        rw [← Text.stripStart?_eq_some_iff, hnone] at h
        cases h
      · cases c <;> revert h <;> decide +kernel
    simp [workingStudentAgain, hactive]
  · intro t
    have hnever : parseExpiration "never" = .error ⟨"never"⟩ := rfl
    cases c <;> simp [Category.expirations, Expires, workingStudent, workingStudentAgain, hnever]

theorem notWorkingStudent_agreesOutside :
    Category.employee.AgreesOutside workingStudent notWorkingStudent := by
  constructor
  · intro a ha
    have hstaff : a ≠ "EMPLOYEE-TYPE-STAFF" := by
      rintro rfl
      exact ha (.inl ⟨"STAFF", by decide +kernel⟩)
    have hexpired : a ≠ "EMPLOYEE-STATUS-EXPIRED" := by
      rintro rfl
      exact ha (.inr (by decide +kernel))
    simp [notWorkingStudent, workingStudent, hstaff, hexpired]
  · intro d hd t
    cases d
    · rfl
    · exact absurd rfl hd
    · rfl
    · rfl

/-- The working student is a former student from the autumn of 2014 on, and of the staff until that
of 2015. -/
theorem classifyDirectoryAt_entitles_workingStudent :
    let now : Instant := ⟨⟨2015, 1, 1, by decide⟩, ⟨0, 0, by decide⟩⟩
    let after : Instant := ⟨⟨2015, 6, 1, by decide⟩, ⟨0, 0, by decide⟩⟩
    let roles := classifyDirectoryAt workingStudent now
    now ≤ after ∧
      (∀ c : Category, c.Agrees workingStudent workingStudentAgain) ∧
      classifyDirectoryAt workingStudentAgain now = roles ∧
      Category.employee.AgreesOutside workingStudent notWorkingStudent ∧
      (classifyDirectoryAt notWorkingStudent now).recorded .exStudent = roles.recorded .exStudent ∧
      roles.get .exStudent = true ∧ roles.get .student = false ∧
      (classifyDirectoryAt workingStudent after).get .exStudent = true ∧
      (classifyDirectoryAt workingStudent after).get .staff = true ∧ roles.get .staff = true := by
  intro now after roles
  obtain ⟨-, hsame, hapart, hgroup, -, htime⟩ := classifyDirectoryAt_entitles workingStudent now
  obtain ⟨hlost, hgained⟩ := htime after (by decide)
  have hformer : roles.get .exStudent = true := by decide +kernel
  have hstaff : (classifyDirectoryAt workingStudent after).get .staff = true := by decide +kernel
  refine ⟨by decide, workingStudentAgain_agrees, hsame _ workingStudentAgain_agrees fun _ => .rfl,
    notWorkingStudent_agreesOutside, ?_, hformer, ?_, hgained hformer, hstaff,
    hlost .staff (by decide) hstaff⟩
  · exact hapart .employee _ notWorkingStudent_agreesOutside (fun _ => .rfl) .exStudent (by decide)
  · rw [Bool.eq_false_iff]
    intro hstudent
    obtain ⟨g, hg, -⟩ := hgroup hstudent hformer
    cases hg

end CampusView
