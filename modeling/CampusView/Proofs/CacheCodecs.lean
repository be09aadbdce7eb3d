import CampusView.Api
import CampusView.Proofs.UnderConduct

/-!
# What the cache gives back

Values go through the cache as texts, and nothing of them is lost on the way: a status feed and the
time of its last change are read back as they were (`cached_values_read_back`), and so is an
academics page that was read itself, also as a delegate sees it, if its numbers are read back, and
unless its text nests deeper than any reader goes (`AcademicsFeed.Kept.decodeText?_eq_some_iff`,
`not_read_back_deepPage`). So a status feed has the same
content hash and entity tag whether it was composed for a request or found in the cache
(`ServedAgain.feedAnswer_eq`), and the hash tells feeds apart as far as the digest does
(`contentHash_eq_iff`).
-/

namespace CampusView

open Json Time Http

/-! ### Academics pages -/

section

variable {depth : Nat}

theorem present_none : Present depth none := fun _ h => nomatch h

theorem Section.Kept.withoutGrade {s : Section} (h : s.Kept depth) : s.withoutGrade.Kept depth :=
  ⟨present_none, h.extra⟩

theorem GpaUnits.Kept.withoutCumulative {g : GpaUnits} (h : g.Kept depth) :
    g.withoutCumulative.Kept depth := ⟨present_none, h.extra⟩

theorem Course.Kept.withoutGrades {c : Course} (h : c.Kept depth) :
    c.withoutGrades.Kept depth where
  sections := List.forall_mem_map.2 fun s hs => (h.sections s hs).withoutGrade
  transcript := by
    intro entries he
    obtain ⟨graded, hgraded, rfl⟩ := Option.map_eq_some_iff.1 he
    exact List.forall_mem_map.2 fun s hs => (h.transcript graded hgraded s hs).withoutGrade
  extra := h.extra

theorem Semester.Kept.withoutGrades {s : Semester} (h : s.Kept depth) :
    s.withoutGrades.Kept depth where
  slug := h.slug
  classes := List.forall_mem_map.2 fun c hc => (h.classes c hc).withoutGrades
  extra := h.extra

theorem Semester.Kept.withoutSlug {s : Semester} (h : s.Kept depth) : s.withoutSlug.Kept depth :=
  ⟨present_none, h.classes, h.extra⟩

namespace AcademicsFeed

variable {f : AcademicsFeed}

theorem Kept.withoutGrades (h : f.Kept depth) : f.withoutGrades.Kept depth where
  semesters := List.forall_mem_map.2 fun s hs => (h.semesters s hs).withoutGrades
  gpaUnits := by
    intro g hg
    obtain ⟨units, hunits, rfl⟩ := Option.map_eq_some_iff.1 hg
    exact (h.gpaUnits units hunits).withoutCumulative
  examSchedule := h.examSchedule
  transitionTerm := h.transitionTerm
  regblocks := h.regblocks
  requirements := h.requirements
  otherSiteMemberships := h.otherSiteMemberships

/-- What a delegate sees of a page passes on nothing else than the page. -/
theorem Kept.forDelegate (h : f.Kept depth) (p : PrivilegeSet) : (f.forDelegate p).Kept depth := by
  have hopen : Kept depth { f with
      semesters := f.semesters.map Semester.withoutSlug
      regblocks := none
      requirements := none
      otherSiteMemberships := none
      filteredForDelegate := true } :=
    ⟨List.forall_mem_map.2 fun s hs => (h.semesters s hs).withoutSlug, h.gpaUnits, h.examSchedule,
      h.transitionTerm, present_none, present_none, present_none⟩
  unfold AcademicsFeed.forDelegate
  split
  · exact hopen
  · exact hopen.withoutGrades

/-- A member of a page is read in full. -/
theorem shape_of_lookup {k : String} {shape : Shape} (h : layout.lookup k = some shape) :
    shape = .any := by
  have hall : ∀ m ∈ layout, m.2 = .any := by
    simp [layout]
  obtain ⟨before, after, hlayout, -⟩ := List.lookup_eq_some_iff.1 h
  exact hall (k, shape) (by simp [hlayout])

/-- A page that was read is read back from its text, unless that nests deeper than any reader
goes. -/
theorem Kept.decodeText?_eq_some_iff (h : f.Kept depth) :
    decodeText? (encodeText f) = some f ↔ (encode f).Fits maxDepth := by
  constructor
  · intro hread
    have hfits := h.lossless.fits
    exact (kept_of_decodeText? (tokens_toText hfits ▸ hfits.exactTokens) hread).lossless.fits
  · intro hfits
    have hmembers : ∀ m ∈ f.members, MemberReads layout 126 m := by
      intro m hm
      obtain ⟨shape, hshape, -, -⟩ := h.members_read m hm
      obtain rfl := shape_of_lookup hshape
      cases hfits with
      | object hfits => exact ⟨.any, hshape, hfits m hm, (reads_any (hfits m hm)).mono (by decide)⟩
    have hreads : Reads 2 (Decode.shape AcademicsFeed) maxDepth (encode f) :=
      (reads_memberwise f.nodup_members hmembers).mono (by decide)
    rw [decodeText?_encodeText hfits hreads, h.lossless.decodes]

end AcademicsFeed

end

/-! ### Status feeds -/

/-- Two texts of one digest. -/
def Digest.Collision (a b : String) : Prop := a ≠ b ∧ Digest.sha256Hex a = Digest.sha256Hex b

/-- Feeds have the same hash exactly if they are the same, or their texts collide. -/
theorem contentHash_eq_iff {f g : UserFeed} (hf : f.Regular) (hg : g.Regular) :
    contentHash f = contentHash g ↔ f = g ∨ Digest.Collision (encodeText f) (encodeText g) := by
  constructor
  · intro hhash
    by_cases htext : encodeText f = encodeText g
    · have hread := hf.decodeText?
      rw [htext, hg.decodeText?] at hread
      exact .inl (Option.some.inj hread).symm
    · exact .inr ⟨htext, hhash⟩
  · rintro (rfl | ⟨-, hhash⟩)
    · rfl
    · exact hhash

/-! ### Composed or found in the cache -/

/-- The request that is opened for a request over HTTP, and the site then. -/
def Request.arrival (r : Request) (settings : Settings) (u : Conduct) (w : Site) : Context × Site :=
  (authenticate settings r.session).runUnder u w

/-- What the status feed is for a request over HTTP. -/
def Request.feedAnswer (r : Request) (settings : Settings) (u : Conduct) (w : Site) :
    Except ServiceError UserFeed :=
  ((statusFeed settings (r.arrival settings u w).1).runUnder u (r.arrival settings u w).2).1.1

/-- A request at `w` composes a feed, and one at `v` of the same user and view finds what the first
one kept, a text that can be read at `t`. -/
structure ServedAgain (settings : Settings) (u : Conduct) (r r' : Request) (w v : Site) (uid : Uid)
    (t : Nanos) (text : String) : Prop where
  user : (r.arrival settings u w).1.auth.userId = some uid
  user' : (r'.arrival settings u v).1.auth.userId = some uid
  view : viewKey (r'.arrival settings u v).1.auth = viewKey (r.arrival settings u w).1.auth
  composes : ((r.arrival settings u w).2.cache.read (r.arrival settings u w).2.clock
    (Cache.Key.status uid (viewKey (r.arrival settings u w).1.auth))).bind
      (decodeText? (α := UserFeed)) = none
  kept : ((answerStatus settings r).runUnder u w).2.clock ≤ t ∧
    ((answerStatus settings r).runUnder u w).2.cache.read t
      (Cache.Key.status uid (viewKey (r.arrival settings u w).1.auth)) = some text
  finds : (r'.arrival settings u v).2.cache.read (r'.arrival settings u v).2.clock
    (Cache.Key.status uid (viewKey (r.arrival settings u w).1.auth)) = some text

section

variable {settings : Settings} {u : Conduct} {ctx : Context} {uid : Uid} {w v : Site}
  {r r' : Request}

/-- The entity tag of an answer is the hash in the stamp of its feed. -/
theorem tag_answerStatus {f : UserFeed} (h : r.feedAnswer settings u w = .ok f) :
    ((answerStatus settings r).runUnder u w).1.tag =
      f.lastModified.map fun m => quotedTag m.hash := by
  simp only [Request.feedAnswer, Request.arrival] at h
  simp only [answerStatus, Program.runUnder_bind, h]
  split <;> rfl

/-- Nothing happens to the site behind the feed. -/
theorem site_answerStatus (settings : Settings) (u : Conduct) (r : Request) (w : Site) :
    ((answerStatus settings r).runUnder u w).2 =
      ((statusFeed settings (r.arrival settings u w).1).runUnder u
        (r.arrival settings u w).2).2 := by
  simp only [answerStatus, Program.runUnder_bind, Request.arrival]
  split
  · rfl
  · split <;> rfl

/-- A feed that was kept is served as it was composed, but for the time in its stamp, and with the
same entity tag. -/
theorem ServedAgain.feedAnswer_eq {t : Nanos} {text : String}
    (h : ServedAgain settings u r r' w v uid t text) :
    ∃ (feed : UserFeed) (at_ at' : Instant), encodeText feed = text ∧
      r.feedAnswer settings u w = .ok (feed.stamped at_) ∧
      r'.feedAnswer settings u v = .ok (feed.stamped at') ∧
      ((answerStatus settings r).runUnder u w).1.tag = some (quotedTag (contentHash feed)) ∧
      ((answerStatus settings r').runUnder u v).1.tag = some (quotedTag (contentHash feed)) := by
  obtain ⟨at_, w', hrun, -, hread⟩ := runUnder_statusFeed_miss h.user h.composes
  -- what was kept is the text of the composed feed
  obtain ⟨ht, hkept⟩ := h.kept
  rw [site_answerStatus, hrun] at ht hkept
  rw [hread t ht] at hkept
  obtain ⟨-, htext⟩ := Option.ite_none_right_eq_some.1 hkept
  have hfinds := h.finds
  rw [← h.view, ← Option.some.inj htext] at hfinds
  have hserved := @runUnder_statusFeed_hit settings u _ uid _ h.user' _
    (by rw [hfinds, Option.bind_some, (Site.regular_composition ..).decodeText?])
  obtain ⟨at', v', hstamp, -⟩ := runBy_stamp Cache.read
    (Cache.Key.stamp uid (viewKey (r'.arrival settings u v).1.auth))
    (contentHash ((r.arrival settings u w).2.composition settings u _ uid).feed)
    (r'.arrival settings u v).2
  rw [hstamp] at hserved
  have hfirst : r.feedAnswer settings u w = .ok _ := congrArg (fun p => p.1.1) hrun
  have hagain : r'.feedAnswer settings u v = .ok _ := congrArg (fun p => p.1.1) hserved
  exact ⟨_, at_, at', Option.some.inj htext, hfirst, hagain, tag_answerStatus hfirst,
    tag_answerStatus hagain⟩

end

/-! ### The codecs -/

/-- **Nothing is lost in the cache.** A status feed whose instants a clock can show and the time of
its last change are read back from their texts as they were. So is an academics page that was
decoded from a value whose numbers are read back and that nests no deeper than a reader goes, also
as a delegate sees it; one that was decoded from a deeper value is, exactly if its text does not
nest too deep for a reader. A feed that is served from the cache has the hash and the entity tag
with which it was composed, and two feeds have one hash only if they are the same or their texts
have one digest. -/
theorem cached_values_read_back :
    (∀ f : UserFeed, f.Regular → decodeText? (encodeText f) = some f) ∧
      (∀ m : LastModified, Time.Regular m.timestamp → decodeText? (encodeText m) = some m) ∧
      (∀ (v : Value) (f : AcademicsFeed) (depth : Nat), v.Readable depth → decode? v = some f →
        ∀ g, g = f ∨ (∃ p, g = f.forDelegate p) →
          (depth ≤ maxDepth → decodeText? (encodeText g) = some g) ∧
            (decodeText? (encodeText g) = some g ↔ (encode g).Fits maxDepth)) ∧
      (∀ settings u r r' w v uid t text, ServedAgain settings u r r' w v uid t text →
        ∃ (feed : UserFeed) (at_ at' : Instant), encodeText feed = text ∧
          r.feedAnswer settings u w = .ok (feed.stamped at_) ∧
          r'.feedAnswer settings u v = .ok (feed.stamped at') ∧
          ((answerStatus settings r).runUnder u w).1.tag = some (quotedTag (contentHash feed)) ∧
          ((answerStatus settings r').runUnder u v).1.tag =
            some (quotedTag (contentHash feed))) ∧
      ∀ f g : UserFeed, f.Regular → g.Regular → (contentHash f = contentHash g ↔
        f = g ∨ Digest.Collision (encodeText f) (encodeText g)) := by
  refine ⟨fun f h => h.decodeText?, fun m h => m.decodeText?_of_regular h, ?_,
    fun settings u r r' w v uid t text h => h.feedAnswer_eq, fun f g => contentHash_eq_iff⟩
  intro v f depth hv hf g hg
  have hkept : ∀ {n}, v.Readable (n + 7) → g.Kept n := fun hn => by
    rcases hg with rfl | ⟨p, rfl⟩
    · exact AcademicsFeed.kept_of_decode? hn hf
    · exact (AcademicsFeed.kept_of_decode? hn hf).forDelegate p
  refine ⟨fun hdepth => ?_, (hkept (hv.mono (Nat.le_add_right depth 7))).decodeText?_eq_some_iff⟩
  exact ((hkept (hv.mono hdepth : v.Readable (120 + 7))).lossless.mono (Nat.zero_le 2)).decodeText?

/-- Lists in one another, the innermost of which is empty. -/
def nestedLists : Nat → Value
  | 0 => .array []
  | n + 1 => .array [nestedLists n]

theorem readable_nestedLists (n : Nat) : (nestedLists n).Readable (n + 1) := by
  induction n with
  | zero => exact Value.Readable.array_nil (Nat.succ_ne_zero 0)
  | succ n ih => exact .array (List.forall_mem_singleton.2 ih)

theorem lt_of_fits_nestedLists {n d : Nat} (h : (nestedLists n).Fits d) : n < d := by
  induction n generalizing d with
  | zero =>
    cases h with
    | array _ => exact Nat.succ_pos _
  | succ n ih =>
    cases h with
    | array h => exact Nat.succ_lt_succ (ih (h _ (List.mem_singleton_self _)))

/-- A page that nests one level deeper than a reader goes. -/
def deepPage : Value := .object [("examSchedule", nestedLists 126)]

/-- There is no number in it, and it is not read back from its text. -/
theorem not_read_back_deepPage :
    deepPage.Readable (maxDepth + 1) ∧
      ∃ page : AcademicsFeed, decode? deepPage = some page ∧
        decodeText? (encodeText page) ≠ some page := by
  have hreadable : deepPage.Readable (maxDepth + 1) :=
    @Value.Readable.object 127 [("examSchedule", nestedLists 126)]
      (List.forall_mem_singleton.2 (readable_nestedLists 126))
  refine ⟨hreadable, { examSchedule := some (nestedLists 126) }, rfl, fun hread => ?_⟩
  have hkept : ({ examSchedule := some (nestedLists 126) } : AcademicsFeed).Kept 121 :=
    AcademicsFeed.kept_of_decode? hreadable rfl
  cases hkept.decodeText?_eq_some_iff.1 hread with
  | object hfits =>
    have hlists : ("examSchedule", nestedLists 126) ∈
        ({ examSchedule := some (nestedLists 126) } : AcademicsFeed).members :=
      List.mem_of_getElem? (i := 1) rfl
    exact absurd (lt_of_fits_nestedLists (hfits _ hlists)) (Nat.lt_irrefl _)

/-- A morning in August. -/
def firstVisit : Instant := ⟨⟨2016, 8, 25, by decide⟩, ⟨32400, 0, by decide⟩⟩

theorem regular_firstVisit : Time.Regular firstVisit := fun h => absurd h (by decide)

/-- A feed with a first login and a role that is recorded as not held. -/
def visitorFeed : UserFeed := compose {
  profile := reconcile ⟨"61889"⟩ ⟨.found { AttributeBag.empty with
    roles := RoleSet.empty.set .student false }, .notFound, .notFound⟩ none ⟨{}, false⟩
  auth := {}
  actor := .everybody
  privileges := none
  delegateStudents := []
  history := {}
  accounts := {}
  data := some {
    uid := ⟨"61889"⟩
    firstLoginAt := some firstVisit } }

theorem regular_visitorFeed : visitorFeed.Regular :=
  ⟨fun _ hi => Option.some.inj hi ▸ regular_firstVisit, fun _ hm => nomatch hm⟩

/-- A page of one semester. -/
def semesterPage : Value :=
  .object [("semesters", .array [.object [("slug", .string "fall-2016")]])]

/-- An advisor who looks at the status feed of a user. -/
def advisorVisit : Request where
  method := "GET"
  path := "/my/status"
  headers := ⟨[("x-session-user-id", "61889"), ("x-session-original-advisor-user-id", "2040")]⟩
  body := .empty

/-- The site after the advisor's first visit. -/
def afterVisit : Site := ((answerStatus {} advisorVisit).runUnder .silent (Site.prompt ∅)).2

/-- The advisor's second visit at once is served with what the first one left in the cache. -/
theorem servedAgain_advisorVisit :
    ∃ t text, ServedAgain {} .silent advisorVisit advisorVisit (Site.prompt ∅) afterVisit
      ⟨"61889"⟩ t text := by
  let ctx : Context := { auth := .ofSession advisorVisit.session }
  have harrival : ∀ w, advisorVisit.arrival {} .silent w = (ctx, w) := fun w => rfl
  have huid : ctx.auth.userId = some ⟨"61889"⟩ := rfl
  obtain ⟨at_, v, hrun, -, hread⟩ :=
    @runUnder_statusFeed_miss {} .silent ctx ⟨"61889"⟩ (Site.prompt ∅) huid rfl
  have hsite : afterVisit = v := by
    rw [afterVisit, site_answerStatus, harrival, hrun]
  let c := (Site.prompt ∅).composition {} .silent ctx ⟨"61889"⟩
  have hlast : v.clock < v.clock + c.ttl {} := by
    refine Nat.lt_add_of_pos_right ?_
    unfold Composition.ttl
    split <;> decide
  have htext := (hread v.clock (Nat.le_refl _)).trans (if_pos hlast)
  refine ⟨v.clock, encodeText c.feed, ?_⟩
  constructor
  · rw [harrival, huid]
  · rw [harrival, huid]
  · rw [harrival, harrival]
  · rw [harrival]
    rfl
  · rw [← afterVisit, hsite, harrival]
    exact ⟨Nat.le_refl _, htext⟩
  · rw [harrival, harrival, hsite]
    exact htext

/-- The feed of a user with a login and its stamp, what a delegate without privileges sees of a page
of one semester, the advisor's second visit, and the feed of somebody who never signed in. -/
theorem cached_values_read_back_advisorVisit :
    decodeText? (encodeText visitorFeed) = some visitorFeed ∧
      decodeText? (encodeText (LastModified.mk "abc" firstVisit)) =
        some (LastModified.mk "abc" firstVisit) ∧
      (∃ page : AcademicsFeed, decode? semesterPage = some page ∧
        decodeText? (encodeText (page.forDelegate .none)) = some (page.forDelegate .none)) ∧
      (∃ tag, ((answerStatus {} advisorVisit).runUnder .silent (Site.prompt ∅)).1.tag =
          some tag ∧
        ((answerStatus {} advisorVisit).runUnder .silent afterVisit).1.tag = some tag) ∧
      let stranger := { visitorFeed with firstLoginAt := none }
      (contentHash visitorFeed = contentHash stranger →
        Digest.Collision (encodeText visitorFeed) (encodeText stranger)) := by
  obtain ⟨hfeed, hstamp, hpage, hserved, hhash⟩ := cached_values_read_back
  refine ⟨hfeed visitorFeed regular_visitorFeed, hstamp ⟨"abc", firstVisit⟩ regular_firstVisit,
    ⟨_, rfl, ?_⟩, ?_, ?_⟩
  · have hsemester : (Value.object [("slug", .string "fall-2016")]).Readable 1 :=
      @Value.Readable.object 0 [("slug", .string "fall-2016")]
        (List.forall_mem_singleton.2 ⟨.string _, .string _⟩)
    have hreadable : semesterPage.Readable 3 :=
      @Value.Readable.object 2 [("semesters", .array [.object [("slug", .string "fall-2016")]])]
        (List.forall_mem_singleton.2 (.array (List.forall_mem_singleton.2 hsemester)))
    exact (hpage semesterPage _ 3 hreadable rfl _ (.inr ⟨.none, rfl⟩)).1 (by decide)
  · obtain ⟨t, text, h⟩ := servedAgain_advisorVisit
    obtain ⟨feed, -, -, -, -, -, htag, htag'⟩ := hserved _ _ _ _ _ _ _ _ _ h
    exact ⟨_, htag, htag'⟩
  · intro stranger hsame
    have hstranger : stranger.Regular :=
      ⟨fun _ hi => (nomatch hi), regular_visitorFeed.lastModified⟩
    refine ((hhash _ _ regular_visitorFeed hstranger).1 hsame).resolve_left fun h => ?_
    cases congrArg UserFeed.firstLoginAt h

end CampusView
