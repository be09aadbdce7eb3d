import CampusView.Proofs.Json.Lossless
import CampusView.Proofs.Redaction.Writing

/-!
# Academics pages read back from the cache

A page that was read from a text whose numbers are read back is `Kept`: what it passes on is
readable, in the order of names, and without the members that it has fields for. A page that is kept
is read back from what is written of it (`AcademicsFeed.Kept.lossless`).
-/

namespace CampusView

open Json

/-! ### Opening what was read -/

namespace Json.Value.Readable

variable {depth : Nat}

theorem items {xs : List Value} (h : (Value.array xs).Readable (depth + 1)) :
    ∀ x ∈ xs, x.Readable depth := by
  obtain ⟨hfits, hordered⟩ := h
  cases hfits with
  | array hf =>
    cases hordered with
    | array ho => exact fun x hx => ⟨hf x hx, ho x hx⟩

theorem members {ms : Members} (h : (Value.object ms).Readable (depth + 1)) :
    (∀ m ∈ ms, m.2.Readable depth) ∧ Members.Sorted ms := by
  obtain ⟨hfits, hordered⟩ := h
  cases hfits with
  | object hf =>
    cases hordered with
    | object ho hs => exact ⟨fun m hm => ⟨hf m hm, ho m hm⟩, hs⟩

theorem lookup {ms : Members} (h : (Value.object ms).Readable (depth + 1)) {k : String}
    {v : Value} (hv : ms.lookup k = some v) : v.Readable depth :=
  h.members.1 _ (Members.mem_of_lookup hv)

end Json.Value.Readable

/-! ### What a part passes on -/

/-- A value that is passed on, if there is one. A null is none. -/
def Present (depth : Nat) (v : Option Value) : Prop :=
  ∀ x ∈ v, x.Readable depth ∧ x.isNull = false

/-- Members that are passed on: in order, and none of the given names. -/
structure Passed (names : List String) (depth : Nat) (ms : Members) : Prop where
  sorted : Members.Sorted ms
  readable : ∀ m ∈ ms, m.2.Readable depth
  unnamed : ∀ m ∈ ms, m.1 ∉ names

section Passing

variable {depth : Nat} {names : List String} {ms : Members}

theorem present_filter {v : Option Value} (h : ∀ x ∈ v, x.Readable depth) :
    Present depth (v.filter fun x => !x.isNull) := by
  intro x hx
  obtain ⟨hv, hnull⟩ := Option.filter_eq_some_iff.1 hx
  exact ⟨h x hv, by simpa using hnull⟩

theorem present_member (h : (Value.object ms).Readable (depth + 1)) (k : String) :
    Present depth (presentMember? ms k) := present_filter fun _ hx => h.lookup hx

theorem passed_without (h : (Value.object ms).Readable (depth + 1)) (names : List String) :
    Passed names depth (Members.without names ms) where
  sorted := Members.sorted_without h.members.2
  readable := fun m hm => h.members.1 m (Members.mem_of_mem_without hm)
  unnamed := fun _ hm => Members.not_mem_of_mem_without hm

theorem Present.map_sorted {v : Option Value} (h : Present depth v) :
    v.map Value.sorted = v := by
  cases v with
  | none => rfl
  | some x => rw [Option.map_some, (h x rfl).1.ordered.sorted_eq]

theorem Present.filter_eq {v : Option Value} (h : Present depth v) :
    v.filter (fun x => !x.isNull) = v := by
  cases v with
  | none => rfl
  | some x => simp [Option.filter, (h x rfl).2]

theorem Passed.sortedMembers_eq (h : Passed names depth ms) : sortedMembers ms = ms := by
  rw [Json.sortedMembers_eq]
  conv_rhs => rw [← List.map_id ms]
  exact List.map_congr_left fun m hm => by rw [(h.readable m hm).ordered.sorted_eq]; rfl

/-- Members of given names in front of members that are passed on are found again when all of them
are put in order, and so is what was passed on. -/
theorem Passed.found (named : Members) (h : Passed names depth ms)
    (hnodup : (named.map Prod.fst).Nodup) (hnames : named.map Prod.fst ⊆ names) :
    (∀ k ∈ names, (Members.ofList (sortedMembers (named ++ ms))).lookup k =
      (named.lookup k).map Value.sorted) ∧
      Members.without names (Members.ofList (sortedMembers (named ++ ms))) = ms := by
  have hall : ((named ++ ms).map Prod.fst).Nodup := by
    rw [List.map_append]
    refine List.nodup_append.2 ⟨hnodup, h.sorted.nodup, fun a ha b hb hab => ?_⟩
    obtain ⟨m, hm, rfl⟩ := List.mem_map.1 hb
    exact h.unnamed m hm (hab ▸ hnames ha)
  constructor
  · intro k hk
    have hnone : ms.lookup k = none :=
      Members.lookup_eq_none fun m hm heq => h.unnamed m hm (heq ▸ hk)
    rw [lookup_sorted hall, List.lookup_append, hnone, Option.or_none]
  · have hwithout : Members.without names (sortedMembers named) = [] := by
      rw [Json.sortedMembers_eq]
      refine List.filter_eq_nil_iff.2 fun m hm => ?_
      obtain ⟨a, ha, rfl⟩ := List.mem_map.1 hm
      simpa using hnames (List.mem_map_of_mem ha)
    have happend : sortedMembers (named ++ ms) = sortedMembers named ++ ms := by
      rw [Json.sortedMembers_eq, List.map_append, ← Json.sortedMembers_eq, ← Json.sortedMembers_eq,
        h.sortedMembers_eq]
    rw [Members.without_ofList, happend, Members.without_append, hwithout,
      Members.without_eq_self h.unnamed, List.nil_append, Members.ofList_eq_self h.sorted]

theorem fits_append {named : Members} (h : Passed names depth ms)
    (hnamed : ∀ m ∈ named, m.2.Fits depth) : (Value.object (named ++ ms)).Fits (depth + 1) :=
  .object fun m hm => (List.mem_append.1 hm).elim (hnamed m) fun hm => (h.readable m hm).fits

theorem fits_optionalMember {k : String} {v : Option Value} (h : ∀ x ∈ v, x.Fits depth) :
    ∀ m ∈ optionalMember k v, m.2.Fits depth := by
  cases v with
  | none => exact fun m hm => absurd hm List.not_mem_nil
  | some x => exact List.forall_mem_singleton.2 (h x rfl)

end Passing

/-- A value of a type that is read in full. -/
theorem lossless_any {α : Type} [Encode α] [Decode α] {depth : Nat} {x : α}
    (hshape : Decode.shape α = .any) (hfits : (encode x).Fits depth)
    (hdecodes : decode? (encode x).sorted = some x) : Lossless 0 depth x :=
  ⟨hfits, hshape ▸ reads_any hfits, hdecodes⟩

/-! ### Lists of parts -/

section Lists

variable {α : Type} [Decode α] {depth : Nat} {xs : List α}

theorem encode_list_fits [Encode α] (h : ∀ x ∈ xs, Lossless 0 depth x) :
    (encode xs).Fits (depth + 1) := .array fun v hv => by
  obtain ⟨x, hx, rfl⟩ := List.mem_map.1 hv
  exact (h x hx).fits

theorem readableItems?_encode [Encode α] (h : ∀ x ∈ xs, Lossless 0 depth x) :
    readableItems? (encode xs).sorted = some xs := by
  show (Value.array (sortedItems (xs.map encode))).items?.map (List.filterMap decode?) = some xs
  rw [Value.items?, Option.map_some, sortedItems_eq, List.map_map, List.filterMap_map]
  congr 1
  induction xs with
  | nil => rfl
  | cons x xs ih =>
    rw [List.filterMap_cons, Function.comp, Function.comp, (h x List.mem_cons_self).decodes,
      ih fun y hy => h y (List.mem_cons_of_mem _ hy)]

/-- The items of a list that was read were read one by one. -/
theorem readable_of_mem {v : Value} {x : α} (hv : v.Readable (depth + 1))
    (h : readableItems? v = some xs) (hx : x ∈ xs) :
    ∃ w : Value, w.Readable depth ∧ decode? w = some x := by
  obtain ⟨ws, hws, rfl⟩ := Option.map_eq_some_iff.1 h
  obtain ⟨w, hw, hdecode⟩ := List.mem_filterMap.1 hx
  cases v with
  | array ys =>
    obtain rfl := Option.some.inj hws
    exact ⟨w, hv.items w hw, hdecode⟩
  | _ => cases hws

/-- The same for a list in a member, which is empty when it is not there. -/
theorem readable_of_mem_getD {v : Option Value} {x : α} (hv : ∀ w ∈ v, w.Readable (depth + 1))
    (hx : x ∈ (v.bind readableItems? : Option (List α)).getD []) :
    ∃ w : Value, w.Readable depth ∧ decode? w = some x := by
  cases h : (v.bind readableItems? : Option (List α)) with
  | none => simp [h] at hx
  | some xs =>
    obtain ⟨w, hw, hxs⟩ := Option.bind_eq_some_iff.1 h
    exact readable_of_mem (hv w hw) hxs (by simpa [h] using hx)

end Lists

/-! ### Parts of a page -/

/-- A section that was read. -/
structure Section.Kept (depth : Nat) (s : Section) : Prop where
  grade : Present depth s.grade
  extra : Passed ["grade"] depth s.extra

/-- Averages that were read. -/
structure GpaUnits.Kept (depth : Nat) (g : GpaUnits) : Prop where
  cumulativeGpa : Present depth g.cumulativeGpa
  extra : Passed ["cumulativeGpa"] depth g.extra

/-- A class that was read. `depth` is that of what its sections pass on. -/
structure Course.Kept (depth : Nat) (c : Course) : Prop where
  sections : ∀ s ∈ c.sections, s.Kept depth
  transcript : ∀ entries ∈ c.transcript, ∀ s ∈ entries, s.Kept depth
  extra : Passed ["sections", "transcript"] (depth + 2) c.extra

/-- A semester that was read. `depth` is that of what the sections of its classes pass on. -/
structure Semester.Kept (depth : Nat) (s : Semester) : Prop where
  slug : Present (depth + 4) s.slug
  classes : ∀ c ∈ s.classes, c.Kept depth
  extra : Passed ["slug", "classes"] (depth + 4) s.extra

section Parts

variable {depth : Nat}

theorem Section.kept_of_decode? {v : Value} {s : Section} (hv : v.Readable (depth + 1))
    (h : decode? v = some s) : s.Kept depth := by
  cases v with
  | object ms =>
    obtain rfl := Option.some.inj h
    exact ⟨present_member hv _, passed_without hv _⟩
  | _ => cases h

theorem GpaUnits.kept_of_decode? {v : Value} {g : GpaUnits} (hv : v.Readable (depth + 1))
    (h : decode? v = some g) : g.Kept depth := by
  cases v with
  | object ms =>
    obtain rfl := Option.some.inj h
    exact ⟨present_member hv _, passed_without hv _⟩
  | _ => cases h

theorem Course.kept_of_decode? {v : Value} {c : Course} (hv : v.Readable (depth + 3))
    (h : decode? v = some c) : c.Kept depth := by
  cases v with
  | object ms =>
    obtain rfl := Option.some.inj h
    refine ⟨fun s hs => ?_, fun entries he s hs => ?_, passed_without hv _⟩
    · obtain ⟨w, hw, hdecode⟩ := readable_of_mem_getD (fun w hw => hv.lookup hw) hs
      exact Section.kept_of_decode? hw hdecode
    · obtain ⟨w, hw, hentries⟩ := Option.bind_eq_some_iff.1 he
      obtain ⟨u, hu, hdecode⟩ := readable_of_mem (hv.lookup hw) hentries hs
      exact Section.kept_of_decode? hu hdecode
  | _ => cases h

theorem Semester.kept_of_decode? {v : Value} {s : Semester} (hv : v.Readable (depth + 5))
    (h : decode? v = some s) : s.Kept depth := by
  cases v with
  | object ms =>
    obtain rfl := Option.some.inj h
    refine ⟨present_member hv _, fun c hc => ?_, passed_without hv _⟩
    obtain ⟨w, hw, hdecode⟩ := readable_of_mem_getD (fun w hw => hv.lookup hw) hc
    exact Course.kept_of_decode? hw hdecode
  | _ => cases h

/-- A value that is passed on is found again under its name. -/
theorem Present.found {v : Option Value} (h : Present depth v) {ms : Members} {k : String}
    (hk : ms.lookup k = v.map Value.sorted) : presentMember? ms k = v := by
  rw [presentMember?, hk, h.map_sorted, h.filter_eq]

theorem Section.Kept.lossless {s : Section} (h : s.Kept depth) : Lossless 0 (depth + 1) s := by
  have hfits : (encode s).Fits (depth + 1) :=
    fits_append h.extra (fits_optionalMember fun x hx => (h.grade x hx).1.fits)
  apply lossless_any rfl hfits
  obtain ⟨hfound, hrest⟩ := h.extra.found (optionalMember "grade" s.grade)
    ((names_optionalMember _ _).nodup (List.nodup_singleton _))
    (names_optionalMember _ _).subset
  have hgrade := h.grade.found (k := "grade")
    ((hfound "grade" (by simp)).trans (by rw [lookup_optionalMember, if_pos rfl]))
  show some (Section.mk (presentMember? _ "grade") (Members.without ["grade"] _)) = some s
  rw [hgrade, hrest]

theorem GpaUnits.Kept.lossless {g : GpaUnits} (h : g.Kept depth) : Lossless 0 (depth + 1) g := by
  have hfits : (encode g).Fits (depth + 1) :=
    fits_append h.extra (fits_optionalMember fun x hx => (h.cumulativeGpa x hx).1.fits)
  apply lossless_any rfl hfits
  obtain ⟨hfound, hrest⟩ := h.extra.found (optionalMember "cumulativeGpa" g.cumulativeGpa)
    ((names_optionalMember _ _).nodup (List.nodup_singleton _))
    (names_optionalMember _ _).subset
  have hgpa := h.cumulativeGpa.found (k := "cumulativeGpa")
    ((hfound "cumulativeGpa" (by simp)).trans (by rw [lookup_optionalMember, if_pos rfl]))
  show some (GpaUnits.mk (presentMember? _ "cumulativeGpa")
    (Members.without ["cumulativeGpa"] _)) = some g
  rw [hgpa, hrest]

theorem Course.Kept.lossless {c : Course} (h : c.Kept depth) : Lossless 0 (depth + 3) c := by
  have hsections : ∀ s ∈ c.sections, Lossless 0 (depth + 1) s := fun s hs =>
    (h.sections s hs).lossless
  have htranscript : ∀ entries ∈ c.transcript, ∀ s ∈ entries, Lossless 0 (depth + 1) s :=
    fun entries he s hs => (h.transcript entries he s hs).lossless
  have hfits : (encode c).Fits (depth + 3) := by
    refine fits_append h.extra (List.forall_mem_cons.2 ⟨encode_list_fits hsections, ?_⟩)
    refine fits_optionalMember fun x hx => ?_
    obtain ⟨entries, he, rfl⟩ := Option.map_eq_some_iff.1 hx
    exact encode_list_fits (htranscript entries he)
  apply lossless_any rfl hfits
  have hnames := (List.Sublist.refl ["sections"]).append
    (names_optionalMember "transcript" (c.transcript.map encode))
  obtain ⟨hfound, hrest⟩ := h.extra.found
    (("sections", encode c.sections) ::
      optionalMember "transcript" (c.transcript.map encode))
    (hnames.nodup (by decide)) hnames.subset
  -- the named members are found again, and the others are what is left
  have hfoundSections := hfound "sections" (by simp)
  have hfoundTranscript := hfound "transcript" (by simp)
  rw [Members.lookup_cons, if_pos rfl] at hfoundSections
  rw [Members.lookup_cons, if_neg (show "transcript" ≠ "sections" by decide),
    lookup_optionalMember, if_pos rfl] at hfoundTranscript
  have hlist := readableItems?_encode hsections
  have hentries : ((c.transcript.map encode).map Value.sorted).bind readableItems? =
      c.transcript := by
    cases ht : c.transcript with
    | none => rfl
    | some entries => exact readableItems?_encode (htranscript entries ht)
  show some (Course.mk (((List.lookup "sections" _).bind readableItems?).getD [])
    ((List.lookup "transcript" _).bind readableItems?)
    (Members.without ["sections", "transcript"] _)) = some c
  rw [hfoundSections, hfoundTranscript, hrest, Option.map_some, Option.bind_some, hlist, hentries]
  rfl

theorem Semester.Kept.lossless {s : Semester} (h : s.Kept depth) :
    Lossless 0 (depth + 5) s := by
  have hclasses : ∀ c ∈ s.classes, Lossless 0 (depth + 3) c := fun c hc => (h.classes c hc).lossless
  have hslug := fits_optionalMember (k := "slug") fun x hx => (h.slug x hx).1.fits
  have hfits : (encode s).Fits (depth + 5) := by
    show (Value.object
      (optionalMember "slug" s.slug ++ ("classes", encode s.classes) :: s.extra)).Fits _
    rw [← List.singleton_append, ← List.append_assoc]
    refine fits_append h.extra (List.forall_mem_append.2 ⟨hslug, ?_⟩)
    exact List.forall_mem_singleton.2 (encode_list_fits hclasses)
  apply lossless_any rfl hfits
  have hnames := (names_optionalMember "slug" s.slug).append (List.Sublist.refl ["classes"])
  obtain ⟨hfound, hrest⟩ := h.extra.found
    (optionalMember "slug" s.slug ++ [("classes", encode s.classes)])
    (by rw [List.map_append]; exact hnames.nodup (by decide))
    (by rw [List.map_append]; exact hnames.subset)
  rw [List.append_assoc, List.singleton_append] at hfound hrest
  -- the slug may be missing, and then it stays so
  have hfoundSlug := hfound "slug" (by simp)
  have hfoundClasses := hfound "classes" (by simp)
  rw [List.lookup_append, lookup_optionalMember, if_pos rfl, Members.lookup_cons,
    if_neg (show "slug" ≠ "classes" by decide), List.lookup_nil, Option.or_none] at hfoundSlug
  rw [List.lookup_append, lookup_optionalMember, if_neg (by decide), Option.none_or,
    Members.lookup_cons, if_pos rfl] at hfoundClasses
  show some (Semester.mk (presentMember? _ "slug")
    (((List.lookup "classes" _).bind readableItems?).getD [])
    (Members.without ["slug", "classes"] _)) = some s
  rw [h.slug.found hfoundSlug, hfoundClasses, hrest, Option.map_some, Option.bind_some,
    readableItems?_encode hclasses]
  rfl

end Parts

/-! ### A page -/

namespace AcademicsFeed

/-- A page that was read. `depth` is that of what the sections of its classes pass on. -/
structure Kept (depth : Nat) (f : AcademicsFeed) : Prop where
  semesters : ∀ s ∈ f.semesters, s.Kept depth
  gpaUnits : ∀ g ∈ f.gpaUnits, g.Kept (depth + 5)
  examSchedule : Present (depth + 6) f.examSchedule
  transitionTerm : Present (depth + 6) f.transitionTerm
  regblocks : Present (depth + 6) f.regblocks
  requirements : Present (depth + 6) f.requirements
  otherSiteMemberships : Present (depth + 6) f.otherSiteMemberships

theorem readable_of_find? {depth : Nat} {v w : Value} {r : Record} {k : String}
    (hv : v.Readable (depth + 1)) (hr : v.record? layout = some r) (hw : r.find? k = some w) :
    w.Readable depth := by
  cases v with
  | object ms =>
    obtain rfl := Option.some.inj hr
    exact hv.lookup hw
  | array xs =>
    rw [Value.record?] at hr
    split at hr
    · obtain rfl := Option.some.inj hr
      exact hv.items w (List.of_mem_zip (Members.mem_of_lookup hw)).2
    · cases hr
  | null | bool | number | string => cases hr

theorem kept_of_decode? {depth : Nat} {v : Value} {f : AcademicsFeed}
    (hv : v.Readable (depth + 7)) (h : decode? v = some f) : f.Kept depth := by
  rw [decode?_eq] at h
  obtain ⟨r, hr, hf⟩ := Option.bind_eq_some_iff.1 h
  obtain ⟨b, -, rfl⟩ := Option.map_eq_some_iff.1 hf
  have hfind : ∀ k, ∀ w ∈ r.find? k, w.Readable (depth + 6) := fun k w hw =>
    readable_of_find? hv hr hw
  refine ⟨fun s hs => ?_, fun g hg => ?_, present_filter (hfind _), present_filter (hfind _),
    present_filter (hfind _), present_filter (hfind _), present_filter (hfind _)⟩
  · obtain ⟨w, hw, hdecode⟩ := readable_of_mem_getD (hfind "semesters") hs
    exact Semester.kept_of_decode? hw hdecode
  · obtain ⟨w, hw, hdecode⟩ := Option.bind_eq_some_iff.1 hg
    exact GpaUnits.kept_of_decode? (hfind _ w hw) hdecode

section Writing

variable {depth : Nat} {f : AcademicsFeed}

/-- The members of a page as they are written. -/
def members (f : AcademicsFeed) : Members :=
  ("semesters", encode f.semesters) ::
    optionalMember "gpaUnits" (f.gpaUnits.map encode) ++
    optionalMember "examSchedule" f.examSchedule ++
    optionalMember "transitionTerm" f.transitionTerm ++
    optionalMember "regblocks" f.regblocks ++
    optionalMember "requirements" f.requirements ++
    optionalMember "otherSiteMemberships" f.otherSiteMemberships ++
    optionalMember "filteredForDelegate"
      (if f.filteredForDelegate then some (.bool true) else none)

theorem nodup_members (f : AcademicsFeed) : (f.members.map Prod.fst).Nodup := by
  have hlayout : (layout.map Prod.fst).Nodup := by decide
  refine List.Sublist.nodup ?_ hlayout
  unfold members
  simp only [List.map_append, List.map_cons]
  exact (((((((List.Sublist.refl ["semesters"]).append (names_optionalMember _ _)).append
    (names_optionalMember _ _)).append (names_optionalMember _ _)).append
    (names_optionalMember _ _)).append (names_optionalMember _ _)).append
    (names_optionalMember _ _)).append (names_optionalMember _ _)

theorem Kept.lossless_semesters (h : f.Kept depth) :
    ∀ s ∈ f.semesters, Lossless 0 (depth + 5) s := fun s hs => (h.semesters s hs).lossless

theorem Kept.lossless_gpaUnits (h : f.Kept depth) :
    ∀ g ∈ f.gpaUnits, Lossless 0 (depth + 6) g := fun g hg => (h.gpaUnits g hg).lossless

/-- A member that is passed on is read in full. -/
theorem optionalMember_reads {name : String} {v : Option Value}
    (hname : layout.lookup name = some .any) (h : ∀ x ∈ v, x.Fits depth) :
    ∀ m ∈ optionalMember name v, MemberReads layout depth m := by
  intro m hm
  have hfits := fits_optionalMember h m hm
  have hm1 : m.1 = name :=
    List.mem_singleton.1 ((names_optionalMember name v).subset (List.mem_map_of_mem hm))
  exact ⟨.any, hm1 ▸ hname, hfits, (reads_any hfits).mono (by decide)⟩

theorem Kept.members_read (h : f.Kept depth) :
    ∀ m ∈ f.members, MemberReads layout (depth + 6) m := by
  have hsemesters := encode_list_fits h.lossless_semesters
  simp only [members, List.forall_mem_append, List.forall_mem_cons]
  refine ⟨⟨⟨⟨⟨⟨⟨⟨.any, rfl, hsemesters, (reads_any hsemesters).mono (by decide)⟩, ?_⟩,
    optionalMember_reads rfl fun x hx => (h.examSchedule x hx).1.fits⟩,
    optionalMember_reads rfl fun x hx => (h.transitionTerm x hx).1.fits⟩,
    optionalMember_reads rfl fun x hx => (h.regblocks x hx).1.fits⟩,
    optionalMember_reads rfl fun x hx => (h.requirements x hx).1.fits⟩,
    optionalMember_reads rfl fun x hx => (h.otherSiteMemberships x hx).1.fits⟩, ?_⟩
  · refine optionalMember_reads rfl fun x hx => ?_
    obtain ⟨g, hg, rfl⟩ := Option.map_eq_some_iff.1 hx
    exact (h.lossless_gpaUnits g hg).fits
  · refine optionalMember_reads rfl fun x hx => ?_
    split at hx
    · obtain rfl := Option.some.inj hx
      exact .bool true
    · cases hx

/-- Members that hold the written ones in order are read as the page. -/
theorem Kept.decode?_members (h : f.Kept depth) {ms : Members}
    (hms : ∀ k, ms.lookup k = (f.members.lookup k).map Value.sorted) :
    decode? (.object ms) = some f := by
  have hlookup : ms.lookup "semesters" = some (encode f.semesters).sorted ∧
      ms.lookup "gpaUnits" = (f.gpaUnits.map encode).map Value.sorted ∧
      ms.lookup "examSchedule" = f.examSchedule.map Value.sorted ∧
      ms.lookup "transitionTerm" = f.transitionTerm.map Value.sorted ∧
      ms.lookup "regblocks" = f.regblocks.map Value.sorted ∧
      ms.lookup "requirements" = f.requirements.map Value.sorted ∧
      ms.lookup "otherSiteMemberships" = f.otherSiteMemberships.map Value.sorted ∧
      ms.lookup "filteredForDelegate" =
        (if f.filteredForDelegate then some (.bool true) else none) := by
    simp only [hms, members, List.cons_append, Members.lookup_cons, List.lookup_append,
      lookup_optionalMember]
    cases f.filteredForDelegate <;> simp [Value.sorted]
  obtain ⟨h1, h2, h3, h4, h5, h6, h7, h8⟩ := hlookup
  have hgpa : ((f.gpaUnits.map encode).map Value.sorted).bind decode? = f.gpaUnits := by
    cases hg : f.gpaUnits with
    | none => rfl
    | some g => exact (h.lossless_gpaUnits g hg).decodes
  have hmark : (ms.lookup "filteredForDelegate").elim (some false) Value.toBool? =
      some f.filteredForDelegate := by
    rw [h8]
    cases f.filteredForDelegate <;> rfl
  rw [decode?_object, hmark, Option.map_some, ofFind, h1, h2, h3, h4, h5, h6, h7, hgpa,
    Option.bind_some, readableItems?_encode h.lossless_semesters, h.examSchedule.map_sorted,
    h.examSchedule.filter_eq, h.transitionTerm.map_sorted, h.transitionTerm.filter_eq,
    h.regblocks.map_sorted, h.regblocks.filter_eq, h.requirements.map_sorted,
    h.requirements.filter_eq, h.otherSiteMemberships.map_sorted, h.otherSiteMemberships.filter_eq]
  rfl

/-- A page that is kept is read back from what is written of it. -/
theorem Kept.lossless (h : f.Kept depth) : Lossless 0 (depth + 7) f :=
  Lossless.record rfl rfl f.nodup_members h.members_read fun _ hms => h.decode?_members hms

end Writing

/-- A page that was read from a text is kept, if the numbers of the text are read back. -/
theorem kept_of_decodeText? {text : String} {f : AcademicsFeed} (hts : ExactTokens (tokens text))
    (h : decodeText? text = some f) : f.Kept 120 := by
  obtain ⟨v, hv, hf⟩ := Option.bind_eq_some_iff.1 h
  cases hread : read (Decode.shape AcademicsFeed) text with
  | error e =>
    rw [hread] at hv
    cases hv
  | ok w =>
    rw [hread] at hv
    obtain rfl := Option.some.inj hv
    exact kept_of_decode? (readable_of_read hts hread) hf

end AcademicsFeed

end CampusView
