import CampusView.Proofs.WrittenData

/-!
# The cache makes no difference

The running site and the one whose cache never has anything answer alike, and leave the same store
(`Desk.run_eq_runUncached`). There is one exception: an academics page goes through the cache as a
text, and its numbers may be read back as others (`run_ne_runUncached_units`).
-/

namespace CampusView

open Json Time

/-- In the turns of a desk an operation on data of the user was answered so, and no later one may
have changed that data. -/
def Desk.LastWrite (settings : Settings) (ts : List Turn) (d : Desk) (uid : Uid) (op : Operation)
    (reply : Reply) : Prop :=
  ∃ before t after number auth, ts = before ++ t :: after ∧ t.errand = .within number op ∧
    (Desk.run settings before d).2.ledger.sessions[number]? = some auth ∧
    op.changes? auth = some uid ∧
    (Desk.run settings ts d).1[before.length]? = some (some reply) ∧
    ∀ t' ∈ after, ¬t'.Changes (Desk.run settings ts d).2.ledger.sessions uid

section

variable {S : Set Authentication} {settings : Settings} {campus : Campus} {read : Cache.Reader}
  {d : Desk} {ts : List Turn} {uid : Uid} {op : Operation} {reply : Reply} {auth : Authentication}

/-- A write is answered with data or with whether there was any, not with a page or a feed. -/
theorem Operation.answer_of_changes {s : Store} {now : Instant}
    (h : op.changes? auth = some uid) :
    (∃ answer, op.answer settings campus s now auth = .userData answer) ∨
      ∃ answer, op.answer settings campus s now auth = .deleted answer := by
  cases op with
  | statusFeed | academicsFeed | delegateStudents => cases h
  | setPreferredName value => exact .inl ⟨_, rfl⟩
  | recordFirstLogin => exact .inl ⟨_, rfl⟩
  | deleteUser target => exact .inr ⟨_, rfl⟩

/-- The cache makes no difference to what a write is answered. -/
theorem Reply.Matches.eq_of_changes {s : Store} {now at_ : Instant}
    (hchanges : op.changes? auth = some uid)
    (h : reply.Matches read campus at_ (op.answer settings campus s now auth)) :
    reply = op.answer settings campus s now auth := by
  rcases Operation.answer_of_changes hchanges with ⟨answer, hanswer⟩ | ⟨answer, hanswer⟩ <;>
    rw [hanswer] at h ⊢ <;> cases h with
    | same h => cases reply <;> first | exact h | cases h

/-- Whether there was a reply does not depend on the cache either. -/
theorem map_restamped_of_matches {at_ : Instant} (hcampus : campus.ExactAcademics)
    {a b : Option Reply} (h : Option.Rel (Reply.Matches read campus at_) a b) :
    a.map (Reply.restamped at_) = b.map (Reply.restamped at_) := by
  cases h with
  | some h => exact congrArg some (h.restamped_eq hcampus)
  | none => rfl

/-- Replies that match the same ones, of which some are from a site without a cache, match each
other. -/
theorem forall₂_matches {at_ : Instant} {as bs cs : List (Option Reply)}
    (h : List.Forall₂ (Option.Rel (Reply.Matches read campus at_)) as cs)
    (h' : List.Forall₂ (Option.Rel (Reply.Matches Cache.never campus at_)) bs cs) :
    List.Forall₂ (Option.Rel (Reply.Matches read campus at_)) as bs := by
  induction h generalizing bs with
  | nil =>
    cases h'
    exact .nil
  | cons hac _ ih =>
    obtain _ | ⟨hbc, hbs⟩ := h'
    refine .cons ?_ (ih hbs)
    cases hac with
    | none =>
      cases hbc
      exact .none
    | some hac =>
      obtain hbc | _ := hbc
      exact .some (hac.trans_restamped hbc.restamped_eq_of_never.symm)

/-- After its last write the feed of a user shows what was written. -/
theorem Desk.Sound.shows (hS : ∀ a ∈ S, ∀ b ∈ S, a.SameView b → a.SameStanding b)
    (hvalidator : settings.flags.authenticationValidator = false)
    (hts : ∀ t ∈ ts, t.Ordinary S) (hd : d.Sound S settings campus)
    (h : d.LastWrite settings ts uid op reply) (view : Authentication) :
    (freshFeed settings campus view uid ((Desk.run settings ts d).2.site.store.data? uid)).Shows
      (freshFeed settings campus view uid none).preferredName op reply := by
  obtain ⟨before, t, after, number, auth, rfl, herrand, hsession, hchanges, hreply, hspared⟩ := h
  obtain ⟨hbefore, -⟩ := List.forall_mem_append.1 hts
  obtain ⟨-, hledger, -⟩ := runBy_posts hS Cache.truthful_read hvalidator hbefore hd t.wallClock
  obtain ⟨hreplies, hledger', -⟩ := runBy_posts hS Cache.truthful_read hvalidator hts hd t.wallClock
  rw [Desk.run, hledger] at hsession
  rw [Desk.run, hledger'] at hspared
  -- the ledger says what the operation was answered and what it left
  let l := (d.ledger.run settings campus before).2
  have hturn : l.turn settings campus t =
      (some (op.answer settings campus l.store t.wallClock auth),
        { l with store := op.effect campus t.wallClock auth l.store }) := by
    simp only [Ledger.turn, herrand]
    rw [hsession]
  have hdata : (Desk.run settings (before ++ t :: after) d).2.site.store.data? uid =
      (op.effect campus t.wallClock auth l.store).data? uid := by
    have hrow := Ledger.row?_run_append hspared
    rw [hturn, ← hledger'] at hrow
    exact Store.data?_congr hrow
  have hanswer : reply = op.answer settings campus l.store t.wallClock auth := by
    have hat := @Ledger.getElem?_run settings campus d.ledger t before after
    rw [hturn] at hat
    obtain ⟨hlt, hreply⟩ := List.getElem?_eq_some_iff.1 hreply
    obtain ⟨hlt', hat⟩ := List.getElem?_eq_some_iff.1 hat
    have hmatches := (List.forall₂_iff_get.1 hreplies).2 before.length hlt hlt'
    rw [List.get_eq_getElem, List.get_eq_getElem] at hmatches
    simp only [Desk.run] at hreply
    simp only [hreply, hat] at hmatches
    cases hmatches with
    | some hmatches => exact hmatches.eq_of_changes hchanges
  rw [hdata, hanswer]
  exact Operation.shows_effect hchanges

end

/-- **The cache makes no difference.** While nobody is held and sessions have one viewer at most,
other than the user, the running site answers every turn like the site whose cache never has
anything, and leaves the same store; only an academics page may be answered as it is read back from
its text, and that is the page itself if its numbers are read back. After its last write the status
feed of a user shows what was written, in every view. What is kept of an academics page is the page
of the campus system, not what a delegate saw of it. -/
theorem Desk.run_eq_runUncached {settings : Settings}
    (hvalidator : settings.flags.authenticationValidator = false) {w : Site}
    (hcache : w.cache = ∅) {ts : List Turn} (hts : ∀ t ∈ ts, t.Ordinary {a | a.Plain})
    (at_ : Instant) :
    let campus := w.answers settings
    let kept := Desk.run settings ts { site := w }
    let plain := Desk.runUncached settings ts { site := w }
    (w.campus.ExactAcademics → kept.1.map (Option.map (Reply.restamped at_)) =
        plain.1.map (Option.map (Reply.restamped at_))) ∧
      List.Forall₂ (Option.Rel (Reply.Matches Cache.read campus at_)) kept.1 plain.1 ∧
      kept.2.site.store = plain.2.site.store ∧
      (∀ ctx ∈ kept.2.opened, ∀ uid, ctx.auth.userId = some uid → ∀ n, ∃ feed,
        ((statusFeed settings ctx).run (kept.2.site.wait n)).1.1 = .ok feed ∧
          feed.unstamped = freshFeed settings campus ctx.auth uid
            (kept.2.site.store.data? uid) ∧
          ∀ op reply, Desk.LastWrite settings ts { site := w } uid op reply →
            feed.Shows (freshFeed settings campus ctx.auth uid none).preferredName op reply) ∧
      ∀ uid now text, kept.2.site.cache.read now (Cache.Key.academics uid) = some text →
        text = encodeText (freshPage campus uid) := by
  intro campus kept plain
  have hS : ∀ a ∈ {a : Authentication | a.Plain}, ∀ b ∈ {b : Authentication | b.Plain},
      a.SameView b → a.SameStanding b :=
    fun a ha b hb => Authentication.sameStanding_of_plain ha hb
  have hsound : ({ site := w } : Desk).Sound {a | a.Plain} settings campus :=
    Desk.sound_of_empty hcache
  obtain ⟨hreplies, hledger, hkept⟩ := runBy_posts hS Cache.truthful_read hvalidator hts hsound at_
  obtain ⟨hreplies', hledger', -⟩ := runBy_posts hS Cache.truthful_never hvalidator hts hsound at_
  have hmatches : List.Forall₂ (Option.Rel (Reply.Matches Cache.read campus at_)) kept.1 plain.1 :=
    forall₂_matches hreplies hreplies'
  refine ⟨?_, hmatches, ?_, ?_, ?_⟩
  · intro hexact
    rw [← List.forall₂_eq_eq_eq, List.forall₂_map_left_iff, List.forall₂_map_right_iff]
    exact hmatches.imp fun _ _ h => map_restamped_of_matches (hexact.within _ _) h
  · exact congrArg Ledger.store (hledger.trans hledger'.symm)
  · intro ctx hctx uid huid n
    obtain ⟨time, hrun⟩ := hkept.statusFeed hS hctx huid n
    exact ⟨_, hrun, rfl, fun op reply hlast => hsound.shows hS hvalidator hts hlast ctx.auth⟩
  · intro uid now text htext
    exact (hkept.current.of_read Cache.truthful_read htext).eq_encodeText

/-! ### A student and a delegate -/

namespace Visit

/-- A morning in March. -/
def morning : Instant := ⟨⟨2016, 3, 1, by decide⟩, ⟨30000, 0, by decide⟩⟩

/-- The page that is read from a text. -/
def pageOf (text : String) : AcademicsFeed := (decodeText? text).getD {}

theorem decodeText?_pageOf {text : String}
    (h : (decodeText? text : Option AcademicsFeed).isSome) :
    decodeText? text = some (pageOf text) := by
  obtain ⟨page, hpage⟩ := Option.isSome_iff_exists.1 h
  rw [pageOf, hpage, Option.getD_some]

/-- The text of a page with an average of few digits. -/
def averageText : String := "\x7b\"gpaUnits\":\x7b\"cumulativeGpa\":3.708\x7d\x7d"

/-- A site that knows the academics page of one student. -/
def site : Site where
  wallClock := morning
  campus := (∅ : Campus).set .academics ⟨"61889"⟩ (.found (pageOf averageText))

/-- The session of the student. -/
def student : SessionRecord := ⟨[(SessionKey.userId, .string "61889")]⟩

/-- The session of a delegate of the student. -/
def delegate : SessionRecord :=
  ⟨[(SessionKey.userId, .string "61889"), (SessionKey.delegateViewer, .string "1000")]⟩

/-- The student looks at the status feed, takes a name and looks again, and then a delegate looks at
the status feed and the academics page. -/
def turns : List Turn :=
  [.enter student, .within 0 .statusFeed, .within 0 (.setPreferredName "Oski"),
    .within 0 .statusFeed, .enter delegate, .within 1 .statusFeed, .within 1 .academicsFeed].map
    fun errand => { elapsed := seconds 1, wallClock := morning, errand }

theorem exactAcademics : site.campus.ExactAcademics := by
  intro uid page hpage
  simp only [site, Campus.set, dif_pos] at hpage
  split at hpage
  · obtain rfl := Lookup.found.inj hpage
    exact ⟨averageText, exactTokens_of_short (by decide +kernel),
      decodeText?_pageOf (by decide +kernel)⟩
  · cases hpage

theorem plain_student : (Authentication.ofSession student).Plain := ⟨by decide, by decide⟩

theorem plain_delegate : (Authentication.ofSession delegate).Plain := ⟨by decide, by decide⟩

theorem ordinary : ∀ t ∈ turns, t.Ordinary {a | a.Plain} := by
  intro t ht
  obtain ⟨errand, herrand, rfl⟩ := List.mem_map.1 ht
  refine ⟨show FourDigits 2016 from ⟨by decide, by decide⟩, fun session hsession => ?_⟩
  obtain rfl : errand = .enter session := hsession
  simp only [List.mem_cons, List.not_mem_nil, Errand.enter.injEq, reduceCtorEq, false_or,
    or_false] at herrand
  rcases herrand with rfl | rfl
  · exact plain_student
  · exact plain_delegate

/-- What the student is answered when the name is kept. -/
def oski : UserData := { uid := ⟨"61889"⟩, preferredName := some "Oski" }

/-- Nobody changes the name of the student later. -/
theorem lastWrite_oski : Desk.LastWrite {} turns { site } ⟨"61889"⟩ (.setPreferredName "Oski")
    (.userData (.ok oski)) := by
  refine ⟨turns.take 2, ⟨seconds 1, morning, .within 0 (.setPreferredName "Oski")⟩, turns.drop 3, 0,
    .ofSession student, rfl, rfl, rfl, rfl, rfl, ?_⟩
  rintro t ht ⟨number, op, auth, herrand, -, hchanges⟩
  have hreads : t.errand ∈ [.within 0 .statusFeed, .enter delegate, .within 1 .statusFeed,
      .within 1 .academicsFeed] := List.mem_map_of_mem (f := Turn.errand) ht
  rw [herrand] at hreads
  simp only [List.mem_cons, List.not_mem_nil, or_false, Errand.within.injEq, reduceCtorEq,
    false_or] at hreads
  rcases hreads with ⟨-, rfl⟩ | ⟨-, rfl⟩ | ⟨-, rfl⟩ <;> cases hchanges

/-- The replies of the visit are the same without the cache, and so is the store; and then both the
student and the delegate are shown the name that the student took. -/
theorem run_eq_runUncached_visit :
    (∀ t ∈ turns, t.Ordinary {a | a.Plain}) ∧ site.campus.ExactAcademics ∧
      (Desk.run {} turns { site }).1.map (Option.map (Reply.restamped morning)) =
        (Desk.runUncached {} turns { site }).1.map (Option.map (Reply.restamped morning)) ∧
      (Desk.run {} turns { site }).2.site.store =
        (Desk.runUncached {} turns { site }).2.site.store ∧
      (Desk.run {} turns { site }).2.ledger.sessions =
        [.ofSession student, .ofSession delegate] ∧
      ∀ ctx ∈ (Desk.run {} turns { site }).2.opened, ctx.auth.userId = some ⟨"61889"⟩ →
        ∃ feed, ((statusFeed {} ctx).run ((Desk.run {} turns { site }).2.site.wait 0)).1.1 =
          .ok feed ∧ feed.preferredName = "Oski" := by
  obtain ⟨hreplies, -, hstore, hfeeds, -⟩ :=
    @Desk.run_eq_runUncached {} rfl site rfl turns ordinary morning
  refine ⟨ordinary, exactAcademics, hreplies exactAcademics, hstore, ?_, fun ctx hctx huid => ?_⟩
  · obtain ⟨-, hledger, -⟩ := runBy_posts
      (fun a ha b hb => Authentication.sameStanding_of_plain ha hb) Cache.truthful_read rfl
      ordinary (Desk.sound_of_empty rfl : ({ site } : Desk).Sound {a | a.Plain} {} _) morning
    exact congrArg Ledger.sessions hledger
  · obtain ⟨feed, hrun, -, hshows⟩ := hfeeds ctx hctx _ huid 0
    exact ⟨feed, hrun, hshows _ _ lastWrite_oski⟩

/-- The text of a page with a small number, which is read as `1.0000000000000001e-28` and then as
`9.999999999999999e-29`. -/
def unitsText : String := "\x7b\"gpaUnits\":\x7b\"cumulativeGpa\":1e-28\x7d\x7d"

/-- A site where the student has this page. -/
def unitsSite : Site where
  wallClock := morning
  campus := (∅ : Campus).set .academics ⟨"61889"⟩ (.found (pageOf unitsText))

/-- The student looks at it twice. -/
def unitsTurns : List Turn :=
  [.enter student, .within 0 .academicsFeed, .within 0 .academicsFeed].map
    fun errand => { elapsed := seconds 1, wallClock := morning, errand }

theorem ordinary_units : ∀ t ∈ unitsTurns, t.Ordinary {a | a.Plain} := by
  intro t ht
  obtain ⟨errand, herrand, rfl⟩ := List.mem_map.1 ht
  refine ⟨show FourDigits 2016 from ⟨by decide, by decide⟩, fun session hsession => ?_⟩
  obtain rfl : errand = .enter session := hsession
  simp only [List.mem_cons, List.not_mem_nil, Errand.enter.injEq, reduceCtorEq, or_false]
    at herrand
  exact herrand ▸ plain_student

/-- The text of the academics page in a reply. -/
def pageText : Option Reply → String
  | some (.academicsFeed (.ok page)) => encodeText page
  | _ => ""

theorem pageText_restamped (at_ : Instant) (reply : Option Reply) :
    pageText (reply.map (Reply.restamped at_)) = pageText reply := by
  rcases reply with _ | (_ | _ | _ | _ | _ | _) <;> rfl

/-- The second time the page comes from the cache, and its number is another one. -/
theorem run_ne_runUncached_units :
    (∀ t ∈ unitsTurns, t.Ordinary {a | a.Plain}) ∧ decodeText? unitsText = some (pageOf unitsText) ∧
      (Desk.run {} unitsTurns { site := unitsSite }).1.map
          (Option.map (Reply.restamped morning)) ≠
        (Desk.runUncached {} unitsTurns { site := unitsSite }).1.map
          (Option.map (Reply.restamped morning)) := by
  refine ⟨ordinary_units, decodeText?_pageOf (by decide +kernel), fun hsame => ?_⟩
  have htexts := congrArg (List.map pageText) hsame
  simp only [List.map_map, Function.comp_def, pageText_restamped] at htexts
  have hother : (Desk.run {} unitsTurns { site := unitsSite }).1.map pageText ≠
      (Desk.runUncached {} unitsTurns { site := unitsSite }).1.map pageText := by
    decide +kernel
  exact hother htexts

end Visit

end CampusView
