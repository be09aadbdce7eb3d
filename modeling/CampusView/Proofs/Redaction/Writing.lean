import CampusView.Proofs.Redaction.Reading

/-!
# Writing and then deleting

The other half of `CampusView.Proofs.Redaction.Reading`: to write a part of a page and then delete
its members is to remove its fields and then write it.

* A part is `Tidy` if none of its own members hides among the members it passes on. Everything that
  was read is tidy.
* `PageWritesAs` puts a path and an edit together, as `PageDeletesAs` does.
-/

namespace CampusView

open Json

/-! ### Members that may be left out -/

section OptionalMember

variable (k name : String) (v : Option Value) (f : Value → Value)

@[simp] theorem without_optionalMember :
    Members.without [k] (optionalMember name v) =
      if name = k then [] else optionalMember name v := by
  cases v with
  | none => simp [optionalMember, Members.without]
  | some v => by_cases h : name = k <;> simp [optionalMember, Members.without, h]

@[simp] theorem modify_optionalMember :
    Members.modify k f (optionalMember name v) =
      optionalMember name (if name = k then v.map f else v) := by
  cases v with
  | none => simp [optionalMember, Members.modify]
  | some v => by_cases h : name = k <;> simp [optionalMember, Members.modify, h]

@[simp] theorem optionalMember_none : optionalMember name none = [] := rfl

theorem names_optionalMember : ((optionalMember name v).map Prod.fst).Sublist [name] := by
  cases v with
  | none => exact List.nil_sublist _
  | some v => exact List.Sublist.refl _

theorem lookup_optionalMember :
    (optionalMember name v).lookup k = if k = name then v else none := by
  cases v with
  | none => simp [optionalMember]
  | some x => rw [optionalMember, Members.lookup_cons]; rfl

end OptionalMember

@[simp] theorem Json.Members.without_cons (k name : String) (v : Value) (ms : Members) :
    Members.without [k] ((name, v) :: ms) =
      if name = k then Members.without [k] ms else (name, v) :: Members.without [k] ms := by
  by_cases h : name = k <;> simp [Members.without, h]

@[simp] theorem Json.Members.modify_cons (k name : String) (f : Value → Value) (v : Value)
    (ms : Members) :
    Members.modify k f ((name, v) :: ms) =
      (name, if name = k then f v else v) :: Members.modify k f ms := by
  by_cases h : name = k <;> simp [Members.modify, h]

@[simp] theorem Json.Members.modify_nil (k : String) (f : Value → Value) :
    Members.modify k f [] = [] := rfl

/-! ### Parts that hide nothing -/

/-- The grade is not among the members that are passed on. -/
def Section.Tidy (s : Section) : Prop := ∀ m ∈ s.extra, m.1 ∉ ["grade"]

/-- Neither list is among the members that are passed on, and all entries are tidy. -/
structure Course.Tidy (c : Course) : Prop where
  extra : ∀ m ∈ c.extra, m.1 ∉ ["sections", "transcript"]
  sections : ∀ s ∈ c.sections, s.Tidy
  transcript : ∀ entries ∈ c.transcript, ∀ s ∈ entries, s.Tidy

/-- Neither the address nor the classes are among the members that are passed on, and all classes
are tidy. -/
structure Semester.Tidy (s : Semester) : Prop where
  extra : ∀ m ∈ s.extra, m.1 ∉ ["slug", "classes"]
  classes : ∀ c ∈ s.classes, c.Tidy

/-- The cumulative average is not among the members that are passed on. -/
def GpaUnits.Tidy (g : GpaUnits) : Prop := ∀ m ∈ g.extra, m.1 ∉ ["cumulativeGpa"]

/-- All parts are tidy. -/
structure AcademicsFeed.Tidy (f : AcademicsFeed) : Prop where
  semesters : ∀ s ∈ f.semesters, s.Tidy
  gpaUnits : ∀ g ∈ f.gpaUnits, g.Tidy

/-! What was read is tidy. -/

theorem Section.tidy_of_decode? {v : Value} {s : Section} (h : decode? v = some s) : s.Tidy := by
  obtain ⟨ms, -, rfl⟩ := Option.map_eq_some_iff.1 h
  exact fun m hm => Members.not_mem_of_mem_without hm

theorem GpaUnits.tidy_of_decode? {v : Value} {g : GpaUnits} (h : decode? v = some g) :
    g.Tidy := by
  obtain ⟨ms, -, rfl⟩ := Option.map_eq_some_iff.1 h
  exact fun m hm => Members.not_mem_of_mem_without hm

/-- The items of a list that could be read. -/
theorem decode?_of_mem_readableItems? {α : Type} [Decode α] {v : Value} {xs : List α} {x : α}
    (h : readableItems? v = some xs) (hx : x ∈ xs) : ∃ w : Value, decode? w = some x := by
  obtain ⟨ws, -, rfl⟩ := Option.map_eq_some_iff.1 h
  obtain ⟨w, -, hw⟩ := List.mem_filterMap.1 hx
  exact ⟨w, hw⟩

/-- The same for a list in a member, which is empty when it is not there. -/
theorem decode?_of_mem_getD {α : Type} [Decode α] {v : Option Value} {x : α}
    (hx : x ∈ (v.bind readableItems? : Option (List α)).getD []) :
    ∃ w : Value, decode? w = some x := by
  cases h : (v.bind readableItems? : Option (List α)) with
  | none => simp [h] at hx
  | some xs =>
    obtain ⟨w, -, hw⟩ := Option.bind_eq_some_iff.1 h
    exact decode?_of_mem_readableItems? hw (by simpa [h] using hx)

theorem Course.tidy_of_decode? {v : Value} {c : Course} (h : decode? v = some c) : c.Tidy := by
  obtain ⟨ms, -, rfl⟩ := Option.map_eq_some_iff.1 h
  refine ⟨fun m hm => Members.not_mem_of_mem_without hm, fun s hs => ?_,
    fun entries he s hs => ?_⟩
  · obtain ⟨w, hw⟩ := decode?_of_mem_getD hs
    exact Section.tidy_of_decode? hw
  · obtain ⟨w, -, hw⟩ := Option.bind_eq_some_iff.1 he
    obtain ⟨u, hu⟩ := decode?_of_mem_readableItems? hw hs
    exact Section.tidy_of_decode? hu

theorem Semester.tidy_of_decode? {v : Value} {s : Semester} (h : decode? v = some s) :
    s.Tidy := by
  obtain ⟨ms, -, rfl⟩ := Option.map_eq_some_iff.1 h
  refine ⟨fun m hm => Members.not_mem_of_mem_without hm, fun c hc => ?_⟩
  obtain ⟨w, hw⟩ := decode?_of_mem_getD hc
  exact Course.tidy_of_decode? hw

theorem AcademicsFeed.tidy_of_decode? {v : Value} {f : AcademicsFeed} (h : decode? v = some f) :
    f.Tidy := by
  rw [decode?_eq] at h
  obtain ⟨r, -, hr⟩ := Option.bind_eq_some_iff.1 h
  obtain ⟨b, -, rfl⟩ := Option.map_eq_some_iff.1 hr
  refine ⟨fun s hs => ?_, fun g hg => ?_⟩
  · obtain ⟨w, hw⟩ := decode?_of_mem_getD hs
    exact Semester.tidy_of_decode? hw
  · obtain ⟨w, -, hw⟩ := Option.bind_eq_some_iff.1 hg
    exact GpaUnits.tidy_of_decode? hw

/-! ### Deleting after writing -/

/-- To write a tidy part and then delete a path is to make an edit and then write, and the edit
keeps the part tidy. -/
def WritesAs {α : Type} [Encode α] (Tidy : α → Prop) (path : Path) (edit : α → α) : Prop :=
  ∀ x : α, Tidy x → (encode x).delete path = encode (edit x) ∧ Tidy (edit x)

theorem encode_list_delete {α : Type} [Encode α] {Tidy : α → Prop} {path : Path} {edit : α → α}
    (h : WritesAs Tidy path edit) {xs : List α} (hx : ∀ x ∈ xs, Tidy x) :
    (encode xs).delete (.each :: path) = encode (xs.map edit) ∧ ∀ x ∈ xs.map edit, Tidy x := by
  refine ⟨?_, List.forall_mem_map.2 fun x hm => (h x (hx x hm)).2⟩
  show Value.delete _ (.array _) = Value.array _
  rw [Value.delete_each, List.map_map, List.map_map]
  congr 1
  exact List.map_congr_left fun x hm => (h x (hx x hm)).1

theorem writesAs_grade : WritesAs Section.Tidy [.member "grade"] Section.withoutGrade := by
  intro s hs
  refine ⟨?_, hs⟩
  show Value.delete _ (.object _) = Value.object _
  simp [Section.withoutGrade, Members.without_eq_self hs]

theorem writesAs_cumulativeGpa :
    WritesAs GpaUnits.Tidy [.member "cumulativeGpa"] GpaUnits.withoutCumulative := by
  intro g hg
  refine ⟨?_, hg⟩
  show Value.delete _ (.object _) = Value.object _
  simp [GpaUnits.withoutCumulative, Members.without_eq_self hg]

theorem writesAs_slug : WritesAs Semester.Tidy [.member "slug"] Semester.withoutSlug := by
  intro s hs
  refine ⟨?_, hs.extra, hs.classes⟩
  have he : Members.without ["slug"] s.extra = s.extra :=
    Members.without_eq_self fun m hm hk => hs.extra m hm (by simp_all)
  show Value.delete _ (.object _) = Value.object _
  simp [Semester.withoutSlug, he]

section Lists

variable {path : Path}

theorem writesAs_sections {edit : Section → Section} (h : WritesAs Section.Tidy path edit) :
    WritesAs Course.Tidy (.member "sections" :: .each :: path) (Course.mapSections edit) := by
  intro c hc
  obtain ⟨hw, ht⟩ := encode_list_delete h hc.sections
  refine ⟨?_, hc.extra, ht, hc.transcript⟩
  have he : ∀ f, Members.modify "sections" f c.extra = c.extra := fun f =>
    Members.modify_eq_self fun m hm hk => hc.extra m hm (by simp [hk])
  show Value.delete _ (.object _) = Value.object _
  simp [Course.mapSections, he, hw]

theorem writesAs_transcript {edit : Section → Section} (h : WritesAs Section.Tidy path edit) :
    WritesAs Course.Tidy (.member "transcript" :: .each :: path) (Course.mapTranscript edit) := by
  intro c hc
  have he : ∀ f, Members.modify "transcript" f c.extra = c.extra := fun f =>
    Members.modify_eq_self fun m hm hk => hc.extra m hm (by simp [hk])
  refine ⟨?_, hc.extra, hc.sections, ?_⟩
  · show Value.delete _ (.object _) = Value.object _
    cases ht : c.transcript with
    | none => simp [Course.mapTranscript, he, ht]
    | some entries =>
      simp [Course.mapTranscript, he, ht, encode_list_delete h (hc.transcript entries ht)]
  · intro entries hm
    obtain ⟨es, hes, rfl⟩ := Option.map_eq_some_iff.1 hm
    exact (encode_list_delete h (hc.transcript es hes)).2

theorem writesAs_classes {edit : Course → Course} (h : WritesAs Course.Tidy path edit) :
    WritesAs Semester.Tidy (.member "classes" :: .each :: path) (Semester.mapClasses edit) := by
  intro s hs
  obtain ⟨hw, ht⟩ := encode_list_delete h hs.classes
  refine ⟨?_, hs.extra, ht⟩
  have he : ∀ f, Members.modify "classes" f s.extra = s.extra := fun f =>
    Members.modify_eq_self fun m hm hk => hs.extra m hm (by simp [hk])
  show Value.delete _ (.object _) = Value.object _
  simp [Semester.mapClasses, he, hw]

end Lists

namespace AcademicsFeed

theorem encode_eq (f : AcademicsFeed) : encode f = .object (
    ("semesters", encode f.semesters) ::
    optionalMember "gpaUnits" (f.gpaUnits.map encode) ++
    optionalMember "examSchedule" f.examSchedule ++
    optionalMember "transitionTerm" f.transitionTerm ++
    optionalMember "regblocks" f.regblocks ++
    optionalMember "requirements" f.requirements ++
    optionalMember "otherSiteMemberships" f.otherSiteMemberships ++
    optionalMember "filteredForDelegate"
      (if f.filteredForDelegate then some (.bool true) else none)) := rfl

theorem pageWritesAs_semesters {path : Path} {edit : Semester → Semester}
    (h : WritesAs Semester.Tidy path edit) :
    WritesAs Tidy (.member "semesters" :: .each :: path) (mapSemesters edit) := by
  intro f hf
  obtain ⟨hw, ht⟩ := encode_list_delete h hf.semesters
  refine ⟨?_, ht, hf.gpaUnits⟩
  rw [encode_eq, encode_eq]
  simp [mapSemesters, hw]
  rfl

theorem pageWritesAs_gpaUnits :
    WritesAs Tidy [.member "gpaUnits", .member "cumulativeGpa"]
      (mapGpaUnits GpaUnits.withoutCumulative) := by
  intro f hf
  refine ⟨?_, hf.semesters, fun g hg => ?_⟩
  · rw [encode_eq, encode_eq]
    cases hg : f.gpaUnits with
    | none => simp [mapGpaUnits, hg]
    | some g => simp [mapGpaUnits, hg, writesAs_cumulativeGpa g (hf.gpaUnits g hg)]
  · obtain ⟨g, hm, rfl⟩ := Option.map_eq_some_iff.1 hg
    exact (writesAs_cumulativeGpa g (hf.gpaUnits g hm)).2

/-- A member of the page itself. -/
theorem pageWritesAs_member {k : String} {edit : AcademicsFeed → AcademicsFeed}
    (h : ∀ f : AcademicsFeed, (encode f).delete [.member k] = encode (edit f))
    (hs : ∀ f, (edit f).semesters = f.semesters) (hg : ∀ f, (edit f).gpaUnits = f.gpaUnits) :
    WritesAs Tidy [.member k] edit :=
  fun f hf => ⟨h f, by rw [hs]; exact hf.semesters, by rw [hg]; exact hf.gpaUnits⟩

theorem forall₂_delegateWrites :
    List.Forall₂ (WritesAs Tidy) delegatePaths delegateEdits :=
  .cons (pageWritesAs_member (fun f => by simp [encode_eq]) (fun _ => rfl) fun _ => rfl) <|
  .cons (pageWritesAs_member (fun f => by simp [encode_eq]) (fun _ => rfl) fun _ => rfl) <|
  .cons (pageWritesAs_member (fun f => by simp [encode_eq]) (fun _ => rfl) fun _ => rfl) <|
  .cons (pageWritesAs_semesters writesAs_slug) .nil

theorem forall₂_gradeWrites : List.Forall₂ (WritesAs Tidy) gradePaths gradeEdits :=
  .cons (pageWritesAs_semesters (writesAs_classes (writesAs_sections writesAs_grade))) <|
  .cons (pageWritesAs_semesters (writesAs_classes (writesAs_transcript writesAs_grade))) <|
  .cons pageWritesAs_gpaUnits .nil

theorem forall₂_hiddenWrites (p : PrivilegeSet) :
    List.Forall₂ (WritesAs Tidy) (hiddenPaths p) (hiddenEdits p) := by
  unfold hiddenPaths hiddenEdits
  split
  · exact forall₂_delegateWrites
  · exact List.rel_append forall₂_delegateWrites forall₂_gradeWrites

theorem encode_deleteAll {paths : List Path} {edits : List (AcademicsFeed → AcademicsFeed)}
    (h : List.Forall₂ (WritesAs Tidy) paths edits) {f : AcademicsFeed} (hf : f.Tidy) :
    paths.foldl (fun v path => v.delete path) (encode f) = encode (editAll edits f) := by
  induction h generalizing f with
  | nil => rfl
  | cons hd _ ih =>
    obtain ⟨hw, ht⟩ := hd f hf
    rw [List.foldl_cons, hw, ih ht]
    rfl

/-- The JSON form of a tidy page without what is hidden is the JSON form of the page with all
edits made. -/
theorem redact_encode (p : PrivilegeSet) {f : AcademicsFeed} (hf : f.Tidy) :
    redact p (encode f) = encode (editAll (hiddenEdits p) f) :=
  encode_deleteAll (forall₂_hiddenWrites p) hf

end AcademicsFeed

end CampusView
