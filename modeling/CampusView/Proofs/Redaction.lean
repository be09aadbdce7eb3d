import CampusView.Proofs.Redaction.Writing

/-!
# What a delegate learns from an academics page

A delegate's view of an academics page is made by removing fields from the page that was read, while
`redact` deletes members of a JSON value. `compose?_redacts` says that the view, written, is the
page, written, without the hidden members, and that nothing else of the answer of the campus
service shows in it.
-/

namespace CampusView

open Json

namespace AcademicsFeed

/-- A page that can be read is read as the object with its members. -/
theorem named_eq_object {v : Value} {f : AcademicsFeed} (h : decode? v = some f) :
    ∃ ms, named v = .object ms ∧ (decode? (.object ms) : Option AcademicsFeed) = some f := by
  rw [decode?_eq] at h
  obtain ⟨r, hr, hf⟩ := Option.bind_eq_some_iff.1 h
  cases v with
  | object ms => exact ⟨ms, rfl, by rw [decode?_eq, hr, Option.bind_some, hf]⟩
  | array xs =>
    refine ⟨_, rfl, ?_⟩
    have hr' :
        some (Record.mk (fun k => ((layout.map Prod.fst).zip xs).lookup k) true) = some r := by
      by_cases hl : xs.length ≤ layout.length
      · rwa [Value.record?, if_pos hl] at hr
      · rw [Value.record?, if_neg hl] at hr
        cases hr
    rw [decode?_eq, ← hf, ← Option.some.inj hr']
    rfl
  | null | bool | number | string => cases hr

/-- An edit made on the marked page is the mark made on the edited page. -/
theorem editAll_marked (p : PrivilegeSet) (f : AcademicsFeed) :
    editAll (hiddenEdits p) { f with filteredForDelegate := true } =
      { editAll (hiddenEdits p) f with filteredForDelegate := true } := by
  unfold hiddenEdits
  split <;> rfl

/-- Two pages that differ only in what is hidden look the same to a delegate. -/
theorem forDelegate_eq_of_redact_eq {p : PrivilegeSet} {v v' : Value} {f f' : AcademicsFeed}
    (hv : decode? v = some f) (hv' : decode? v' = some f')
    (h : redact p (named v) = redact p (named v')) : f.forDelegate p = f'.forDelegate p := by
  obtain ⟨ms, hn, hf⟩ := named_eq_object hv
  obtain ⟨ms', hn', hf'⟩ := named_eq_object hv'
  have hedit : editAll (hiddenEdits p) f = editAll (hiddenEdits p) f' := by
    rw [hn, hn'] at h
    have hd := decode?_redact p ms
    rw [h, decode?_redact, hf, hf'] at hd
    exact (Option.some.inj hd).symm
  rw [forDelegate_eq, forDelegate_eq, editAll_marked, editAll_marked, hedit]

/-- A delegate who may see the academics page is served the page with exactly the hidden members
deleted, and any two answers of the campus service that differ only in hidden members are served
as the same text. -/
theorem compose?_redacts {v : Value} {f : AcademicsFeed} {p : PrivilegeSet}
    (hv : decode? v = some f) (hp : p.grantsAcademics) :
    ∃ g, f.compose? (some p) = some g ∧
      encode g = redact p (encode { f with filteredForDelegate := true }) ∧
      ∀ (v' : Value) (f' : AcademicsFeed), decode? v' = some f' →
        redact p (named v) = redact p (named v') →
          (f'.compose? (some p)).map encodeText = some (encodeText g) := by
  refine ⟨f.forDelegate p, if_pos hp, ?_, fun v' f' hv' h => ?_⟩
  · have hf : f.Tidy := tidy_of_decode? hv
    have hmarked : ({ f with filteredForDelegate := true } : AcademicsFeed).Tidy :=
      ⟨hf.semesters, hf.gpaUnits⟩
    rw [redact_encode p hmarked, forDelegate_eq]
  · have hg : f'.compose? (some p) = some (f'.forDelegate p) := if_pos hp
    rw [hg, Option.map_some, forDelegate_eq_of_redact_eq hv hv' h]

/-- A page with one class of this grade. -/
def gradedPage (grade : String) : Value := .object [
  ("regblocks", .array [.string "hold"]),
  ("semesters", .array [.object [
    ("classes", .array [.object [
      ("sections", .array [.object [("grade", .string grade), ("ccn", .string "12345")]]),
      ("units", .string "4")]]),
    ("name", .string "Fall"),
    ("slug", .string "fall-2013")]])]

/-- The delegate who may see enrollments reads the same page whatever the grade is. -/
theorem compose?_redacts_gradedPage :
    ∃ f g : AcademicsFeed, decode? (gradedPage "A") = some f ∧
      f.compose? (some { viewEnrollments := true }) = some g ∧
      encode g =
        redact { viewEnrollments := true } (encode { f with filteredForDelegate := true }) ∧
      ∃ f' : AcademicsFeed, decode? (gradedPage "F") = some f' ∧
        (f'.compose? (some { viewEnrollments := true })).map encodeText = some (encodeText g) := by
  obtain ⟨f, hf⟩ : ∃ f : AcademicsFeed, decode? (gradedPage "A") = some f := ⟨_, rfl⟩
  obtain ⟨f', hf'⟩ : ∃ f : AcademicsFeed, decode? (gradedPage "F") = some f := ⟨_, rfl⟩
  obtain ⟨g, hg, he, hsame⟩ := compose?_redacts (p := { viewEnrollments := true }) hf rfl
  exact ⟨f, g, hf, hg, he, f', hf', hsame _ f' hf' rfl⟩

end AcademicsFeed

end CampusView
