import CampusView.Proofs.UnderConduct

/-!
# What delegates are shown

A delegate is shown the finances, the academics page or grades of a student only if two calls of the
request granted it: the crosswalk knew an id of the student, and the first entry with that id among
the students of the delegate has the privilege. `Grants` says this of two answers, and
`GrantedBetween` of the calls that the site made. Whatever else comes back, also a failure, grants
nothing.

The status feed and the academics page are different requests, but if what the delegate may see is
settled once for both, they agree (`delegate_sees_granted`).
-/

namespace CampusView

open Time

/-! ### What is granted -/

/-- These answers grant something: the crosswalk knows an id of the student, and the first entry
with that id grants it. -/
def Grants (p : PrivilegeSet → Bool) (ids : Lookup CorrelatedIds)
    (students : Lookup (List DelegateStudent)) : Prop :=
  ∃ record id before entry after, ids = .found record ∧ record.campusSolutionsId = some id ∧
    students = .found (before ++ entry :: after) ∧
    (∀ s ∈ before, s.campusSolutionsId ≠ id) ∧ entry.campusSolutionsId = id ∧
    p entry.privileges = true

/-- The first entry for an id decides. -/
theorem privilegesFor?_eq_some_iff {students : List DelegateStudent} {id : String}
    {privileges : PrivilegeSet} :
    privilegesFor? students id = some privileges ↔
      ∃ before entry after, students = before ++ entry :: after ∧
        (∀ s ∈ before, s.campusSolutionsId ≠ id) ∧ entry.campusSolutionsId = id ∧
        entry.privileges = privileges := by
  rw [privilegesFor?, Option.map_eq_some_iff]
  constructor
  · rintro ⟨entry, hfind, rfl⟩
    obtain ⟨hid, before, after, rfl, hbefore⟩ := List.find?_eq_some_iff_append.1 hfind
    refine ⟨before, entry, after, rfl, ?_, by simpa using hid, rfl⟩
    intro s hs
    simpa using hbefore s hs
  · rintro ⟨before, entry, after, rfl, hbefore, hid, rfl⟩
    refine ⟨entry, List.find?_eq_some_iff_append.2 ⟨?_, before, after, rfl, ?_⟩, rfl⟩
    · simpa using hid
    · intro s hs
      simpa using hbefore s hs

/-- Without an id, a list or an entry there are no privileges. -/
theorem Resolution.privileges_of (ids : Lookup CorrelatedIds)
    (students : Lookup (List DelegateStudent)) :
    (Resolution.of ids students).privileges =
      ((ids.found?.bind CorrelatedIds.campusSolutionsId).bind fun id =>
        students.found?.bind fun list => privilegesFor? list id).getD .none := by
  unfold Resolution.of
  cases ids.found?.bind CorrelatedIds.campusSolutionsId <;> cases students <;> rfl

/-- What nobody has by default, a delegate has by these answers or not at all. -/
theorem privileges_of_iff {p : PrivilegeSet → Bool} (hp : p .none = false)
    (ids : Lookup CorrelatedIds) (students : Lookup (List DelegateStudent)) :
    p (Resolution.of ids students).privileges = true ↔ Grants p ids students := by
  rw [Resolution.privileges_of]
  constructor
  · intro h
    cases hfound : (ids.found?.bind CorrelatedIds.campusSolutionsId).bind fun id =>
        students.found?.bind fun list => privilegesFor? list id with
    | none =>
      rw [hfound, Option.getD_none, hp] at h
      cases h
    | some privileges =>
      obtain ⟨id, hid, hlist⟩ := Option.bind_eq_some_iff.1 hfound
      obtain ⟨record, hrecord, hid⟩ := Option.bind_eq_some_iff.1 hid
      obtain ⟨list, hstudents, hfirst⟩ := Option.bind_eq_some_iff.1 hlist
      obtain ⟨before, entry, after, rfl, hbefore, hentry, rfl⟩ :=
        privilegesFor?_eq_some_iff.1 hfirst
      rw [hfound] at h
      exact ⟨record, id, before, entry, after, Lookup.found?_eq_some_iff.1 hrecord, hid,
        Lookup.found?_eq_some_iff.1 hstudents, hbefore, hentry, h⟩
  · rintro ⟨record, id, before, entry, after, rfl, hid, rfl, hbefore, hentry, hgranted⟩
    have hfirst : privilegesFor? (before ++ entry :: after) id = some entry.privileges :=
      privilegesFor?_eq_some_iff.2 ⟨before, entry, after, rfl, hbefore, hentry, rfl⟩
    simpa [Lookup.found?, hid, hfirst] using hgranted

/-- Two calls that the site made between two of its states granted something to a delegate. -/
def GrantedBetween (settings : Settings) (u : Conduct) (delegate student : Uid) (w w' : Site)
    (p : PrivilegeSet → Bool) : Prop :=
  settings.flags.csDelegatedAccess = true ∧ ∃ n, w.calls.length ≤ n ∧
    w'.calls[n]? = some ⟨.crosswalk, student⟩ ∧
    w'.calls[n + 1]? = some ⟨.delegateStudents, delegate⟩ ∧
    Grants p (u.answers settings.timeout n .crosswalk student)
      (u.answers settings.timeout (n + 1) .delegateStudents delegate)

section

variable {settings : Settings} {u : Conduct} {auth : Authentication} {student delegate : Uid}
  {w w' : Site} {p : PrivilegeSet → Bool}

/-- What is settled for a new request is granted by the calls for it, from some call on. -/
theorem grantedBetween_of_resolution (huid : auth.userId = some student)
    (hdelegate : auth.delegateViewer = some delegate) (hp : p .none = false) {k : Nat}
    (hk : w.calls.length ≤ k)
    (hcalls : ∀ n call, (({ auth } : Context).resolution settings).calls[n]? = some call →
      w'.calls[k + n]? = some call)
    (h : ((({ auth } : Context).resolution settings).outcome fun n =>
      u.answers settings.timeout (k + n)).all (p ∘ Resolution.privileges) = true) :
    GrantedBetween settings u delegate student w w' p := by
  have hresolution : ({ auth } : Context).resolution settings =
      some <$> resolve settings delegate student := by
    simp only [Context.resolution, huid, hdelegate]
  rw [hresolution] at hcalls h
  by_cases hflag : settings.flags.csDelegatedAccess = true
  · have hids := hcalls 0 ⟨.crosswalk, student⟩ (by simp [resolve, hflag])
    have hstudents := hcalls 1 ⟨.delegateStudents, delegate⟩ (by simp [resolve, hflag])
    have hprivileges : p (Resolution.of (u.answers settings.timeout k .crosswalk student)
        (u.answers settings.timeout (k + 1) .delegateStudents delegate)).privileges = true := by
      simpa [resolve, hflag] using h
    exact ⟨hflag, k, hk, hids, hstudents, (privileges_of_iff hp _ _).1 hprivileges⟩
  · -- while delegates are switched off, nothing is granted
    have hnone : p .none = true := by simpa [resolve, hflag, PrivilegeSet.none] using h
    rw [hp] at hnone
    cases hnone

/-- What the composed feed of a delegate's request is granted by. -/
theorem grantedBetween_of_composition (huid : auth.userId = some student)
    (hdelegate : auth.delegateViewer = some delegate) (hp : p .none = false)
    (h : ((w.composition settings u { auth } student).resolution.map Resolution.privileges).all p =
      true) :
    GrantedBetween settings u delegate student w (w.asked settings u { auth } student) p := by
  obtain ⟨before, hcalls, hresolution⟩ :=
    FeedAnswers.inquiry_resolution settings { auth } student
  rw [Option.all_map, Site.composition, hresolution] at h
  simp only [Site.meets, ← Nat.add_assoc] at h
  refine grantedBetween_of_resolution huid hdelegate hp (Nat.le_add_right _ before.length) ?_ h
  intro n call hcall
  rw [Site.asked, Site.inquireUnder, hcalls, List.getElem?_append_right (by omega),
    show w.calls.length + before.length + n - w.calls.length = before.length + n by omega,
    List.getElem?_append_right (by omega), Nat.add_sub_cancel_left, hcall]

/-- What the academics page of a delegate's request is granted by. -/
theorem grantedBetween_of_settling (huid : auth.userId = some student)
    (hdelegate : auth.delegateViewer = some delegate) (hp : p .none = false)
    (h : ((w.settling settings u { auth }).1.map Resolution.privileges).all p = true) :
    GrantedBetween settings u delegate student w
      ((academicsFeed settings { auth }).runUnder u w).2 p := by
  rw [Option.all_map] at h
  refine grantedBetween_of_resolution huid hdelegate hp (Nat.le_refl _) ?_ h
  intro n call hcall
  apply getElem?_calls_academicsFeed huid
  rw [Site.settling, Site.inquireUnder, List.getElem?_append_right (by omega),
    Nat.add_sub_cancel_left, hcall]

end

/-! ### Tabs -/

section

variable {roles : RoleSet} {privileges : Option PrivilegeSet} {history : CourseHistory}

theorem all_financial_of_tab (h : hasFinancialsTab roles privileges = true) :
    privileges.all PrivilegeSet.financial = true := by
  rw [hasFinancialsTab, Bool.and_eq_true] at h
  exact h.1

theorem all_grantsAcademics_of_tab (h : hasAcademicsTab roles privileges history = true) :
    privileges.all PrivilegeSet.grantsAcademics = true := by
  rw [hasAcademicsTab, Bool.and_eq_true] at h
  exact h.1

theorem all_viewGrades_of_grades (h : canViewGrades roles privileges history = true) :
    hasAcademicsTab roles privileges history = true ∧
      privileges.all PrivilegeSet.viewGrades = true := by
  rwa [canViewGrades, Bool.and_eq_true] at h

end

/-! ### Grades -/

/-- The grades of a class, in its sections and in its transcript. -/
def Course.grades (c : Course) : List Json.Value :=
  (c.sections ++ c.transcript.getD []).filterMap Section.grade

/-- The grades of a semester. -/
def Semester.grades (s : Semester) : List Json.Value := s.classes.flatMap Course.grades

theorem Section.grade_withoutGrade (s : Section) : s.withoutGrade.grade = none := rfl

theorem Course.grades_withoutGrades (c : Course) : c.withoutGrades.grades = [] := by
  rw [grades, List.filterMap_append]
  cases htranscript : c.transcript <;>
    simp [withoutGrades, htranscript, Section.grade_withoutGrade]

theorem Semester.grades_withoutGrades (s : Semester) : s.withoutGrades.grades = [] := by
  simp [grades, withoutGrades, List.flatMap_map, Course.grades_withoutGrades]

theorem Semester.grades_withoutSlug (s : Semester) : s.withoutSlug.grades = s.grades := rfl

namespace AcademicsFeed

/-- The grades on a page, the cumulative average among them. -/
def grades (f : AcademicsFeed) : List Json.Value :=
  f.semesters.flatMap Semester.grades ++ (f.gpaUnits.bind GpaUnits.cumulativeGpa).toList

/-- A delegate sees all grades or none. -/
theorem grades_forDelegate (f : AcademicsFeed) (p : PrivilegeSet) :
    (f.forDelegate p).grades = if p.viewGrades then f.grades else [] := by
  rw [forDelegate]
  by_cases hgrades : p.viewGrades = true
  · rw [if_pos hgrades, if_pos hgrades]
    simp [grades, List.flatMap_map, Semester.grades_withoutSlug]
  · rw [if_neg hgrades, if_neg hgrades]
    simp [grades, withoutGrades, List.flatMap_map, Semester.grades_withoutGrades,
      GpaUnits.withoutCumulative]

/-- A delegate who may see the page is shown it, with all grades or none. -/
theorem shown_of_grantsAcademics {privileges : Option PrivilegeSet}
    (h : privileges.all PrivilegeSet.grantsAcademics = true) (page : AcademicsFeed) :
    ∃ shown, page.shown privileges = .ok shown ∧
      shown.grades = if privileges.all PrivilegeSet.viewGrades then page.grades else [] := by
  cases privileges with
  | none => exact ⟨page, rfl, rfl⟩
  | some p =>
    have hshown : page.compose? (some p) = some (page.forDelegate p) := if_pos h
    refine ⟨page.forDelegate p, ?_, page.grades_forDelegate p⟩
    rw [shown, hshown]

end AcademicsFeed

/-! ### Both pages -/

section

variable {settings : Settings} {u : Conduct} {auth : Authentication} {student delegate : Uid}
  {w : Site}

/-- The tabs of a delegate's feed are granted by calls that were made for it. -/
theorem composeFeed_grantedBetween (huid : auth.userId = some student)
    (hdelegate : auth.delegateViewer = some delegate) :
    let r := (composeFeed settings { auth } student).runUnder u w
    (r.1.feed.hasFinancialsTab = true →
        GrantedBetween settings u delegate student w r.2 PrivilegeSet.financial) ∧
      (r.1.feed.hasAcademicsTab = true →
        GrantedBetween settings u delegate student w r.2 PrivilegeSet.grantsAcademics) ∧
      (r.1.feed.canViewGrades = true →
        GrantedBetween settings u delegate student w r.2 PrivilegeSet.viewGrades) := by
  rw [runUnder_composeFeed]
  refine ⟨fun h => ?_, fun h => ?_, fun h => ?_⟩
  · exact grantedBetween_of_composition huid hdelegate rfl (all_financial_of_tab h)
  · exact grantedBetween_of_composition huid hdelegate rfl (all_grantsAcademics_of_tab h)
  · exact grantedBetween_of_composition huid hdelegate rfl (all_viewGrades_of_grades h).2

/-- What a delegate is shown of the academics page is granted by calls that were made for it. -/
theorem academicsFeed_grantedBetween (huid : auth.userId = some student)
    (hdelegate : auth.delegateViewer = some delegate) :
    let r := (academicsFeed settings { auth }).runUnder u w
    (r.1.1 ≠ .error (.forbidden .noAcademicPrivilege) →
        GrantedBetween settings u delegate student w r.2 PrivilegeSet.grantsAcademics) ∧
      ∀ page, r.1.1 = .ok page → page.grades ≠ [] →
        GrantedBetween settings u delegate student w r.2 PrivilegeSet.viewGrades := by
  intro r
  have hanswer : r.1.1 = _ := congrArg Prod.fst (answer_academicsFeed huid)
  by_cases hall : ((w.settling settings u { auth }).1.map Resolution.privileges).all
      PrivilegeSet.grantsAcademics = true
  · obtain ⟨shown, hshown, hgrades⟩ := AcademicsFeed.shown_of_grantsAcademics hall
      ((w.settling settings u { auth }).2.page settings u student)
    refine ⟨fun _ => grantedBetween_of_settling huid hdelegate rfl hall, ?_⟩
    intro page hpage hne
    obtain rfl : shown = page := Except.ok.inj (hshown.symm.trans (hanswer.symm.trans hpage))
    refine grantedBetween_of_settling huid hdelegate rfl ?_
    by_contra hview
    exact hne (hgrades.trans (if_neg hview))
  · have hrefused := AcademicsFeed.shown_of_all (Bool.eq_false_iff.2 hall)
      ((w.settling settings u { auth }).2.page settings u student)
    rw [hrefused] at hanswer
    refine ⟨fun hne => absurd hanswer hne, ?_⟩
    intro page hpage
    rw [hanswer] at hpage
    cases hpage

/-- What a student is shown of the academics page is all of it. -/
theorem answer_academicsFeed_direct (settings : Settings) (u : Conduct) (w : Site) (student : Uid) :
    ((academicsFeed settings { auth := .direct student }).runUnder u w).1.1 =
      .ok (w.page settings u student) := by
  have hsettling : w.settling settings u { auth := .direct student } = (none, w) :=
    w.inquireUnder_pure u settings.timeout none
  rw [answer_academicsFeed rfl, hsettling]
  rfl

/-- If what the delegate may see is settled once for both pages, they agree. -/
theorem academicsFeed_agrees {ctx ctx' : Context} {u' : Conduct} {w' : Site}
    (huid : ctx'.auth.userId = some student) :
    let c := ((composeFeed settings ctx student).runUnder u w).1
    let a := ((academicsFeed settings ctx').runUnder u' w').1
    a.2.settled = some c.resolution →
      (c.feed.hasAcademicsTab = true → ∃ page, a.1 = .ok page) ∧
      (c.feed.canViewGrades = true → ∃ page full, a.1 = .ok page ∧
        ((academicsFeed settings { auth := .direct student }).runUnder u'
          (w'.settling settings u' ctx').2).1.1 = .ok full ∧ page.grades = full.grades) ∧
      ∀ e, a.1 = .error e → c.feed.hasAcademicsTab = false ∧ c.feed.canViewGrades = false := by
  intro c a hsettled
  have hanswer : a = _ := answer_academicsFeed huid
  rw [hanswer] at hsettled
  have hresolution : (w'.settling settings u' ctx').1 = c.resolution := Option.some.inj hsettled
  rw [hresolution] at hanswer
  have htab : c.feed.hasAcademicsTab = true → ∃ page, a.1 = .ok page ∧ page.grades =
      if (c.resolution.map Resolution.privileges).all PrivilegeSet.viewGrades
        then ((w'.settling settings u' ctx').2.page settings u' student).grades else [] := by
    intro h
    rw [hanswer]
    exact AcademicsFeed.shown_of_grantsAcademics (all_grantsAcademics_of_tab h) _
  refine ⟨?_, ?_, ?_⟩
  · intro h
    obtain ⟨page, hpage, -⟩ := htab h
    exact ⟨page, hpage⟩
  · intro h
    obtain ⟨hacademics, hview⟩ := all_viewGrades_of_grades h
    obtain ⟨page, hpage, hgrades⟩ := htab hacademics
    exact ⟨page, _, hpage, answer_academicsFeed_direct .., hgrades.trans (if_pos hview)⟩
  · intro e he
    have hnot : ¬c.feed.hasAcademicsTab = true := by
      intro h
      obtain ⟨page, hpage, -⟩ := htab h
      rw [hpage] at he
      cases he
    exact ⟨Bool.eq_false_iff.2 hnot, Bool.eq_false_iff.2 fun h =>
      hnot (all_viewGrades_of_grades h).1⟩

/-- **A delegate sees what was granted, and nothing else.** However the campus systems behave, a tab
of a delegate's new feed or something of the academics page is shown only if two calls that were
made for it grant it. If what the delegate may see is settled once for both pages, the tabs say what
is shown of the academics page. -/
theorem delegate_sees_granted (huid : auth.userId = some student)
    (hdelegate : auth.delegateViewer = some delegate) :
    let composed := (composeFeed settings { auth } student).runUnder u w
    let answered := (academicsFeed settings { auth }).runUnder u w
    (composed.1.feed.hasFinancialsTab = true →
        GrantedBetween settings u delegate student w composed.2 PrivilegeSet.financial) ∧
      (composed.1.feed.hasAcademicsTab = true →
        GrantedBetween settings u delegate student w composed.2 PrivilegeSet.grantsAcademics) ∧
      (composed.1.feed.canViewGrades = true →
        GrantedBetween settings u delegate student w composed.2 PrivilegeSet.viewGrades) ∧
      (answered.1.1 ≠ .error (.forbidden .noAcademicPrivilege) →
        GrantedBetween settings u delegate student w answered.2 PrivilegeSet.grantsAcademics) ∧
      (∀ page, answered.1.1 = .ok page → page.grades ≠ [] →
        GrantedBetween settings u delegate student w answered.2 PrivilegeSet.viewGrades) ∧
      ∀ (ctx ctx' : Context) (u' : Conduct) (w' : Site), ctx.auth = auth → ctx'.auth = auth →
        let c := ((composeFeed settings ctx student).runUnder u w).1
        let a := ((academicsFeed settings ctx').runUnder u' w').1
        a.2.settled = some c.resolution →
          (c.feed.hasAcademicsTab = true → ∃ page, a.1 = .ok page) ∧
          (c.feed.canViewGrades = true → ∃ page full, a.1 = .ok page ∧
            ((academicsFeed settings { auth := .direct student }).runUnder u'
              (w'.settling settings u' ctx').2).1.1 = .ok full ∧ page.grades = full.grades) ∧
          ∀ e, a.1 = .error e → c.feed.hasAcademicsTab = false ∧ c.feed.canViewGrades = false := by
  intro composed answered
  obtain ⟨hfinancials, hacademics, hgrades⟩ :=
    @composeFeed_grantedBetween settings u auth student delegate w huid hdelegate
  obtain ⟨hpage, hpageGrades⟩ :=
    @academicsFeed_grantedBetween settings u auth student delegate w huid hdelegate
  refine ⟨hfinancials, hacademics, hgrades, hpage, hpageGrades, ?_⟩
  intro ctx ctx' u' w' hauth hauth'
  exact academicsFeed_agrees (hauth' ▸ huid)

end

/-- A campus where a student lets a delegate see grades, as the second entry for the student denies
again. -/
def gradesCampus : Campus :=
  (((∅ : Campus).set .crosswalk ⟨"61889"⟩
    (.found { studentId := none, campusSolutionsId := some "1", delegateUserId := none })).set
    .delegateStudents ⟨"1000"⟩
    (.found [{ campusSolutionsId := "2" },
      { campusSolutionsId := "1", privileges := { viewGrades := true } },
      { campusSolutionsId := "1" }])).set
    .courseHistory ⟨"61889"⟩ (.found { hasStudentHistory := true })

/-- The delegate is shown the grades, and they were granted. -/
theorem delegate_sees_granted_grades :
    let auth : Authentication := { userId := some ⟨"61889"⟩, delegateViewer := some ⟨"1000"⟩ }
    let u := Conduct.steady gradesCampus fun _ => 0
    let w := Site.prompt gradesCampus
    auth.userId = some ⟨"61889"⟩ ∧ auth.delegateViewer = some ⟨"1000"⟩ ∧
      GrantedBetween {} u ⟨"1000"⟩ ⟨"61889"⟩ w
        ((composeFeed {} { auth } ⟨"61889"⟩).runUnder u w).2 PrivilegeSet.viewGrades := by
  intro auth u w
  obtain ⟨-, -, hgrades, -⟩ := @delegate_sees_granted {} u auth ⟨"61889"⟩ ⟨"1000"⟩ w rfl rfl
  exact ⟨rfl, rfl, hgrades (by decide)⟩

end CampusView
