import CampusView.Http.Condition
import CampusView.Proofs.AnonymousRequests
import CampusView.Proofs.UnderConduct

/-!
# Requests with a condition

A client that holds a copy of its status feed sends a condition along, and is answered with 304 and
without the feed if `tagMatches` finds that its copy is current. `tagMatches` cuts the text of a
condition at every comma, also at the commas of a tag. So a tag falls into an opening with one
quote, pieces without quotes, and a closing with one quote.

* An opening and a closing never match, and a piece between them matches if it is a star
  (`matches_closing_iff`, `matches_tag_iff`).
* So a condition matches a tag exactly if it names the hash, or if a star stands between two commas
  of a listed tag (`tagMatches_iff`).
* `conditions_obeyed_iff`: a client whose condition hides such a star is told that its copy is
  current, whatever it holds; everybody else exactly if their condition names the current feed.
-/

namespace CampusView

open Json

namespace Http

open Text

/-! ### Between separators -/

section

variable {sep c : Char} {as : List Char}

/-- What begins with a separator comes after a text without one. -/
theorem sep_infix_append_iff (h : sep ∉ as) (cs bs : List Char) :
    sep :: cs <:+: as ++ bs ↔ sep :: cs <:+: bs := by
  induction as with
  | nil => rfl
  | cons a as ih =>
    rw [List.mem_cons, not_or] at h
    rw [List.cons_append, List.infix_cons_iff, ih h.2, List.cons_prefix_cons]
    exact or_iff_right fun hstart => h.1 hstart.1

/-- A character stands between the first two separators, or between later ones. -/
theorem infix_between_iff (hc : c ≠ sep) (h : sep ∉ as) (bs : List Char) :
    [sep, c, sep] <:+: sep :: (as ++ sep :: bs) ↔ as = [c] ∨ [sep, c, sep] <:+: sep :: bs := by
  rw [List.infix_cons_iff, sep_infix_append_iff h, List.cons_prefix_cons]
  refine or_congr_left ?_
  cases as with
  | nil => simp [hc]
  | cons a as =>
    rw [List.mem_cons, not_or] at h
    cases as with
    | nil => simp [eq_comm]
    | cons b as =>
      rw [List.mem_cons, not_or] at h
      simp [h.2.1]

/-- Nothing stands between separators where there is only one. -/
theorem not_infix_between (h : sep ∉ as) : ¬[sep, c, sep] <:+: sep :: as := by
  rw [List.infix_cons_iff, List.cons_prefix_cons]
  rintro (⟨-, hstart⟩ | hbetween)
  · exact h (hstart.subset (by simp))
  · exact h (hbetween.subset List.mem_cons_self)

end

/-! ### Pieces -/

/-- But for blanks and weak marks, the piece is a star or the tag of the server. -/
def PieceMatches (hash : String) (piece : List Char) : Prop :=
  trimChars piece = ['*'] ∨ withoutWeakMarks (trimChars piece) = '"' :: (hash.toList ++ ['"'])

theorem tagMatches_iff_exists_piece (sent hash : String) :
    tagMatches sent (quotedTag hash) = true ↔
      ∃ piece ∈ splitOn ',' sent.toList, PieceMatches hash piece := by
  simp [tagMatches, PieceMatches, quotedTag]

section

variable {hash : String} {cs : List Char}

/-- A text with a quote is no star. -/
theorem ne_star_of_quote_mem (h : '"' ∈ cs) : cs ≠ ['*'] := by
  rintro rfl
  exact absurd h (by decide)

theorem isBlank_of_isTagChar (hcs : ∀ c ∈ cs, isTagChar c = true) :
    ∀ c ∈ cs, isBlank c = false := fun c hc => (isTagChar_iff.1 (hcs c hc)).2.1

theorem quote_not_mem (hcs : ∀ c ∈ cs, isTagChar c = true) : '"' ∉ cs :=
  fun h => (isTagChar_iff.1 (hcs '"' h)).2.2 rfl

/-- What is in a tag up to some place holds no blanks. -/
theorem isBlank_of_mem_opening (t : EntityTag) (hcs : ∀ c ∈ cs, isBlank c = false) :
    ∀ c ∈ t.mark ++ '"' :: cs, isBlank c = false := by
  rw [List.forall_mem_append, List.forall_mem_cons]
  exact ⟨t.isBlank_of_mem_mark, by decide, hcs⟩

/-- What is in a tag from some place on holds no blanks. -/
theorem isBlank_of_mem_closing (hcs : ∀ c ∈ cs, isTagChar c = true) :
    ∀ c ∈ cs ++ ['"'], isBlank c = false :=
  List.forall_mem_append.2 ⟨isBlank_of_isTagChar hcs, List.forall_mem_singleton.2 (by decide)⟩

theorem pieceMatches_star (before after : Blanks) :
    PieceMatches hash (before.chars ++ (['*'] ++ after.chars)) :=
  .inl (trimChars_append before.isBlank_of_mem (List.forall_mem_singleton.2 (by decide))
    after.isBlank_of_mem)

/-- A tag in one piece matches if its content is the hash. -/
theorem pieceMatches_whole (before after : Blanks) (t : EntityTag) :
    PieceMatches hash (before.chars ++ (t.chars ++ after.chars)) ↔ t.content = hash := by
  rw [PieceMatches, EntityTag.chars, trimChars_append before.isBlank_of_mem
    (isBlank_of_mem_opening t (isBlank_of_mem_closing t.isTagChar_of_mem)) after.isBlank_of_mem,
    t.withoutWeakMarks_mark, List.cons_inj_right, List.append_left_inj, String.toList_inj]
  exact or_iff_right (ne_star_of_quote_mem (by simp))

/-- The opening of a tag does not match. -/
theorem not_pieceMatches_opening (before : Blanks) (t : EntityTag)
    (hcs : ∀ c ∈ cs, isTagChar c = true) :
    ¬PieceMatches hash (before.chars ++ (t.mark ++ '"' :: cs)) := by
  have htrim := @trimChars_append before.chars (t.mark ++ '"' :: cs) [] before.isBlank_of_mem
    (isBlank_of_mem_opening t (isBlank_of_isTagChar hcs)) nofun
  rw [List.append_nil] at htrim
  rw [PieceMatches, htrim, t.withoutWeakMarks_mark, List.cons_inj_right]
  rintro (hstar | rfl)
  · exact ne_star_of_quote_mem (by simp) hstar
  · exact quote_not_mem hcs (by simp)

/-- What stands between two commas of a tag matches if it is a star. -/
theorem pieceMatches_inner (hcs : ∀ c ∈ cs, isTagChar c = true) :
    PieceMatches hash cs ↔ cs = ['*'] := by
  have htrim := @trimChars_append [] cs [] nofun (isBlank_of_isTagChar hcs) nofun
  rw [List.nil_append, List.append_nil] at htrim
  rw [PieceMatches, htrim]
  refine or_iff_left fun htag => quote_not_mem hcs ?_
  exact (withoutWeakMarks_suffix cs).subset (htag ▸ List.mem_cons_self)

/-- The closing of a tag does not match. -/
theorem not_pieceMatches_closing (after : Blanks) (hcs : ∀ c ∈ cs, isTagChar c = true) :
    ¬PieceMatches hash (cs ++ '"' :: after.chars) := by
  have htrim := @trimChars_append [] (cs ++ ['"']) after.chars nofun
    (isBlank_of_mem_closing hcs) after.isBlank_of_mem
  rw [List.nil_append, List.append_assoc, List.singleton_append] at htrim
  rw [PieceMatches, htrim]
  rintro (hstar | htag)
  · exact ne_star_of_quote_mem (by simp) hstar
  · -- the tag of the server has two quotes, and the closing has one
    have hsuffix := htag ▸ withoutWeakMarks_suffix (cs ++ ['"'])
    exact quote_not_mem hcs
      (((List.suffix_append_inj_of_length_eq rfl).1 hsuffix).1.subset List.mem_cons_self)

/-! ### Tags and conditions -/

/-- A piece of what follows a comma of a tag matches exactly if a star stands between that comma or
a later one and the next. -/
theorem matches_closing_iff (after : Blanks) (hcs : ∀ c ∈ cs, isTagChar c = true) :
    (∃ piece ∈ splitOn ',' (cs ++ '"' :: after.chars), PieceMatches hash piece) ↔
      [',', '*', ','] <:+: ',' :: cs := by
  induction cs using pieces_induction ',' with
  | piece cs hcomma =>
    have hpiece : ',' ∉ cs ++ '"' :: after.chars := by
      simp [hcomma, after.comma_not_mem]
    rw [splitOn_of_not_mem hpiece]
    refine iff_of_false ?_ (not_infix_between hcomma)
    rintro ⟨piece, hmem, hmatches⟩
    rw [List.mem_singleton.1 hmem] at hmatches
    exact not_pieceMatches_closing after hcs hmatches
  | append as bs has ih =>
    rw [List.forall_mem_append, List.forall_mem_cons] at hcs
    have hrest : _ ↔ _ := ih hcs.2.2
    rw [infix_between_iff (by decide) has, ← hrest, List.append_assoc, List.cons_append,
      splitOn_append_of_not_mem has]
    simp only [List.mem_cons, exists_eq_or_imp, pieceMatches_inner hcs.1]

/-- A piece of a listed tag matches exactly if the content is the hash, or has a star between two
commas. -/
theorem matches_tag_iff (hhash : ',' ∉ hash.toList) (t : ListedTag) :
    (∃ piece ∈ splitOn ',' t.chars, PieceMatches hash piece) ↔
      t.tag.content = hash ∨ [',', '*', ','] <:+: t.tag.content.toList := by
  by_cases hcomma : ',' ∈ t.tag.content.toList
  · obtain ⟨as, bs, hcontent, has⟩ := List.eq_append_cons_of_mem hcomma
    have hvisible := t.tag.isTagChar_of_mem
    rw [hcontent, List.forall_mem_append, List.forall_mem_cons] at hvisible
    have hne : t.tag.content ≠ hash := fun h => hhash (h ▸ hcomma)
    have hopening : ',' ∉ t.before.chars ++ (t.tag.mark ++ '"' :: as) := by
      simp [has, t.before.comma_not_mem, t.tag.comma_not_mem_mark]
    have hchars : t.chars = (t.before.chars ++ (t.tag.mark ++ '"' :: as)) ++
        ',' :: (bs ++ '"' :: t.after.chars) := by
      simp [ListedTag.chars, EntityTag.chars, hcontent]
    have hclosing := @matches_closing_iff hash bs t.after hvisible.2.2
    rw [hchars, splitOn_append_of_not_mem hopening, hcontent, sep_infix_append_iff has, ← hclosing]
    simp only [List.mem_cons, exists_eq_or_imp, not_pieceMatches_opening t.before t.tag hvisible.1,
      false_or, hne]
  · have hpiece : ',' ∉ t.chars := by
      simp [ListedTag.chars, EntityTag.chars, hcomma, t.before.comma_not_mem,
        t.after.comma_not_mem, t.tag.comma_not_mem_mark]
    have hbetween : ¬[',', '*', ','] <:+: t.tag.content.toList :=
      fun h => hcomma (h.subset List.mem_cons_self)
    rw [splitOn_of_not_mem hpiece, or_iff_left hbetween, ← pieceMatches_whole t.before t.after]
    simp only [List.mem_singleton, exists_eq_left, ListedTag.chars]

/-- A condition matches the tag of the server exactly if it names the hash, or if a star stands
between two commas of a listed tag. -/
theorem tagMatches_iff (hhash : ',' ∉ hash.toList) (sent : Condition) :
    tagMatches sent.text (quotedTag hash) = true ↔ sent.Names hash ∨ sent.HidesStar := by
  rw [tagMatches_iff_exists_piece]
  cases sent with
  | star before after =>
    have hpiece : ',' ∉ before.chars ++ (['*'] ++ after.chars) := by
      simp [before.comma_not_mem, after.comma_not_mem]
    rw [Condition.text, String.toList_ofList, splitOn_of_not_mem hpiece]
    exact iff_of_true ⟨_, List.mem_singleton_self _, pieceMatches_star before after⟩ (.inl trivial)
  | tags listed =>
    rw [Condition.text, String.toList_ofList]
    cases listed with
    | nil =>
      have hblank : ¬PieceMatches hash [] := fun h =>
        absurd ((pieceMatches_inner (List.forall_mem_nil _)).1 h) (List.cons_ne_nil _ _).symm
      simpa [Condition.Names, Condition.HidesStar, List.intercalate, splitOn] using hblank
    | cons t ts =>
      have hne : (t :: ts).map ListedTag.chars ≠ [] := List.cons_ne_nil _ _
      calc (∃ piece ∈ splitOn ',' ([','].intercalate ((t :: ts).map ListedTag.chars)),
            PieceMatches hash piece)
          ↔ ∃ piece, (∃ s ∈ t :: ts, piece ∈ splitOn ',' s.chars) ∧ PieceMatches hash piece := by
            simp only [mem_splitOn_intercalate hne, List.mem_map, exists_exists_and_eq_and]
        _ ↔ ∃ s ∈ t :: ts, ∃ piece ∈ splitOn ',' s.chars, PieceMatches hash piece := by
            grind
        _ ↔ (∃ s ∈ t :: ts, s.tag.content = hash) ∨
              ∃ s ∈ t :: ts, [',', '*', ','] <:+: s.tag.content.toList := by
            simp only [matches_tag_iff hhash, and_or_left, exists_or]

end

end Http

open Http

/-! ### The current feed -/

/-- What the status feed is for a session. -/
def SessionRecord.feedAnswer (session : SessionRecord) (settings : Settings) (u : Conduct)
    (w : Site) : Except ServiceError UserFeed :=
  let opened := (authenticate settings session).runUnder u w
  ((statusFeed settings opened.1).runUnder u opened.2).1.1

/-- The hash in the stamp of the status feed for a session. None if no feed is shown. -/
def SessionRecord.currentHash? (session : SessionRecord) (settings : Settings) (u : Conduct)
    (w : Site) : Option String :=
  (session.feedAnswer settings u w).toOption.bind fun feed =>
    feed.lastModified.map LastModified.hash

section

variable {settings : Settings} {u : Conduct} {w : Site} {ctx : Context} {session : SessionRecord}
  {r : Request} {hash : String}

theorem hash_runUnder_stamp (key hash : String) :
    ((stamp key hash).runUnder u w).1.hash = hash := by
  obtain ⟨at_, w', hrun, -⟩ := runBy_stamp Cache.read key hash w
  rw [(runUnder_stamp u w key hash).1, hrun]

/-- Whoever is signed in is shown a feed, with the hash of a text in its stamp. -/
theorem exists_stamp_of_statusFeed {uid : Uid} (huid : ctx.auth.userId = some uid) :
    ∃ feed m, ((statusFeed settings ctx).runUnder u w).1.1 = .ok feed ∧
      feed.lastModified = some m ∧ ',' ∉ m.hash.toList := by
  simp only [statusFeed, subject, huid, Program.runUnder_bind, Program.runUnder_pure]
  refine ⟨_, _, rfl, rfl, ?_⟩
  rw [hash_runUnder_stamp]
  exact Digest.comma_not_mem_sha256Hex _

theorem exists_currentHash? {uid : Uid}
    (huid : ((authenticate settings session).runUnder u w).1.auth.userId = some uid) :
    ∃ hash, session.currentHash? settings u w = some hash ∧ ',' ∉ hash.toList := by
  obtain ⟨feed, m, hfeed, hm, hcomma⟩ := @exists_stamp_of_statusFeed settings u
    ((authenticate settings session).runUnder u w).2 _ uid huid
  refine ⟨m.hash, ?_, hcomma⟩
  simp only [SessionRecord.currentHash?, SessionRecord.feedAnswer, hfeed, Except.toOption,
    Option.bind_some, hm, Option.map_some]

theorem comma_not_mem_of_currentHash? (h : session.currentHash? settings u w = some hash) :
    ',' ∉ hash.toList := by
  cases huid : ((authenticate settings session).runUnder u w).1.auth.userId with
  | none =>
    simp [SessionRecord.currentHash?, SessionRecord.feedAnswer, statusFeed, subject, huid,
      Except.toOption] at h
  | some uid =>
    obtain ⟨hash', hcurrent, hcomma⟩ := exists_currentHash? huid
    rw [h] at hcurrent
    rwa [Option.some.inj hcurrent]

/-- The status feed is answered with its hash as tag, and with 304 exactly if the condition that
was sent matches it. -/
theorem runUnder_answerStatus (settings : Settings) (u : Conduct) (w : Site) (r : Request)
    (session : SessionRecord) :
    let response := ((answerStatus settings r session).runUnder u w).1
    let current := session.currentHash? settings u w
    response.tag = current.map quotedTag ∧
      (response.status = 304 ↔ ∃ hash ∈ current, ∃ sent ∈ r.headers.text? "if-none-match",
        tagMatches sent (quotedTag hash) = true) := by
  intro response current
  cases hfeed : session.feedAnswer settings u w with
  | error e =>
    have hcurrent : current = none := by
      simp only [current, SessionRecord.currentHash?, hfeed]
      rfl
    have hresponse : response = .of (.error e) := by
      simp only [SessionRecord.feedAnswer] at hfeed
      simp only [response, answerStatus, Program.runUnder_bind, hfeed, Program.runUnder_pure]
    rw [hcurrent, hresponse]
    refine ⟨rfl, iff_of_false ?_ (by simp)⟩
    cases e <;> simp [Response.of, ServiceError.status]
  | ok feed =>
    have hcurrent : current = feed.lastModified.map LastModified.hash := by
      simp only [current, SessionRecord.currentHash?, hfeed, Except.toOption, Option.bind_some]
    simp only [SessionRecord.feedAnswer] at hfeed
    simp only [response, answerStatus, Program.runUnder_bind, hfeed]
    rw [hcurrent]
    split
    · rename_i hmatches
      refine ⟨by rw [Option.map_map]; rfl, iff_of_true rfl ?_⟩
      simpa [Option.any_eq_true] using hmatches
    · rename_i hmatches
      refine ⟨by rw [Option.map_map]; rfl, iff_of_false (by rintro ⟨⟩) ?_⟩
      simpa [Option.any_eq_true] using hmatches

/-- A request for the status feed, or for its head alone, is answered with the hash of the feed as
tag, and with 304 exactly if the condition names the hash or a star hides in it. -/
theorem runUnder_handle_of_status {sent : Option Condition}
    (hpath : Endpoint.ofPath? r.path = some .status)
    (htakes : Endpoint.status.takes r.method = true)
    (hsent : r.headers.text? "if-none-match" = sent.map Condition.text) :
    let response := ((handle settings r session).runUnder u w).1
    let current := session.currentHash? settings u w
    response.tag = current.map quotedTag ∧
      (response.status = 304 ↔
        ∃ hash ∈ current, ∃ c ∈ sent, c.Names hash ∨ c.HidesStar) := by
  intro response current
  obtain ⟨htag, hstatus⟩ := runUnder_answerStatus settings u w r session
  have hsame : response.tag = ((answerStatus settings r session).runUnder u w).1.tag ∧
      response.status = ((answerStatus settings r session).runUnder u w).1.status := by
    simp only [response, handle, hpath, if_pos htakes, Program.runUnder_bind, answer]
    split <;> exact ⟨rfl, rfl⟩
  rw [hsame.1, hsame.2, hstatus, hsent]
  refine ⟨htag, ?_⟩
  constructor
  · rintro ⟨hash, hhash, text, htext, hmatches⟩
    obtain ⟨c, hc, rfl⟩ := Option.map_eq_some_iff.1 htext
    exact ⟨hash, hhash, c, hc, (tagMatches_iff (comma_not_mem_of_currentHash? hhash) c).1 hmatches⟩
  · rintro ⟨hash, hhash, c, hc, hmet⟩
    exact ⟨hash, hhash, c.text, Option.map_eq_some_iff.2 ⟨c, hc, rfl⟩,
      (tagMatches_iff (comma_not_mem_of_currentHash? hhash) c).2 hmet⟩

end

/-! ### Who is told that a copy is current -/

/-- **Only clients that name the current feed are told that their copy is current**, and clients in
whose condition a star hides. A condition matches the tag of the server exactly if it names the
hash, unless it does not and a star stands between two commas of a listed tag. A request for the
status feed, with a condition or without one, is answered with the tag of the current feed, and with
304 exactly if the condition names that feed, with the same exception. -/
theorem conditions_obeyed_iff (sent : Option Condition) :
    (∀ c ∈ sent, ∀ hash : String, ',' ∉ hash.toList →
      ((tagMatches c.text (quotedTag hash) = true ↔ c.Names hash) ↔
        (c.HidesStar → c.Names hash))) ∧
      ∀ (settings : Settings) (u : Conduct) (w : Site) (r : Request) (session : SessionRecord),
        Endpoint.ofPath? r.path = some .status →
        Endpoint.status.takes r.method = true →
        r.headers.text? "if-none-match" = sent.map Condition.text →
        let response := ((handle settings r session).runUnder u w).1
        let current := session.currentHash? settings u w
        response.tag = current.map quotedTag ∧
          ((response.status = 304 ↔ ∃ hash ∈ current, ∃ c ∈ sent, c.Names hash) ↔
            ∀ hash ∈ current, ∀ c ∈ sent, c.HidesStar → c.Names hash) := by
  constructor
  · intro c _ hash hhash
    rw [tagMatches_iff hhash]
    tauto
  · intro settings u w r session hpath htakes hsent response current
    obtain ⟨htag, hstatus⟩ :=
      @runUnder_handle_of_status settings u w session r sent hpath htakes hsent
    refine ⟨htag, ?_⟩
    rw [hstatus]
    constructor
    · intro hobeyed hash hhash c hc hstar
      obtain ⟨hash', hhash', c', hc', hnames⟩ := hobeyed.1 ⟨hash, hhash, c, hc, .inr hstar⟩
      rwa [Option.mem_unique hhash hhash', Option.mem_unique hc hc']
    · intro hnamed
      constructor
      · rintro ⟨hash, hhash, c, hc, hnames | hstar⟩
        · exact ⟨hash, hhash, c, hc, hnames⟩
        · exact ⟨hash, hhash, c, hc, hnamed hash hhash c hc hstar⟩
      · rintro ⟨hash, hhash, c, hc, hnames⟩
        exact ⟨hash, hhash, c, hc, .inl hnames⟩

/-- The request of a client for its status feed, with a condition. -/
def statusRequest (sent : Condition) : Request where
  method := "GET"
  path := "/my/status"
  headers := ⟨[("x-session-user-id", "61889"), ("if-none-match", sent.text)]⟩
  body := .empty

/-- The tags of two copies, with commas and stars in them. -/
def oddTags : Condition := .tags [
  { tag := { isWeak := true, content := "a,b" }, after := { chars := [' '] } },
  { before := { chars := [' ', '\t'] }, tag := { content := "*,*" } }]

/-- A client with copies of other feeds is shown its feed, though its tags hold commas and stars. -/
theorem conditions_obeyed_iff_oddTags :
    oddTags.text = "W/\"a,b\" , \t\"*,*\"" ∧
      ∃ hash, (statusRequest oddTags).session.currentHash? {} .silent (Site.prompt ∅) = some hash ∧
        ((handle {} (statusRequest oddTags)).runUnder .silent (Site.prompt ∅)).1.status ≠ 304 := by
  have hstar : ¬oddTags.HidesStar := by decide
  obtain ⟨hash, hhash, hcomma⟩ := @exists_currentHash? {} .silent (Site.prompt ∅)
    (statusRequest oddTags).session ⟨"61889"⟩ (by decide)
  have hnames : ¬oddTags.Names hash := Condition.not_names_of_commas hcomma (by decide)
  obtain ⟨-, hobeyed⟩ := (conditions_obeyed_iff (some oddTags)).2 {} .silent (Site.prompt ∅)
    (statusRequest oddTags) (statusRequest oddTags).session (by decide) (by decide) (by decide)
  rw [hhash] at hobeyed
  have hstatus := hobeyed.2 (by simp [hstar])
  exact ⟨by decide, hash, hhash, fun h => by simpa [hnames] using hstatus.1 h⟩

/-- The tag of one copy, with a star between two commas. -/
def starredTag : Condition := .tags [{ tag := { content := "a,*,b" } }]

/-- The client is told that its copy is current, though it names no feed of the server. -/
theorem starredTag_answered :
    starredTag.text = "\"a,*,b\"" ∧ ¬starredTag.Names "abc" ∧
      tagMatches starredTag.text (quotedTag "abc") = true ∧
      ∃ hash, (statusRequest starredTag).session.currentHash? {} .silent (Site.prompt ∅) =
          some hash ∧ ¬starredTag.Names hash ∧
        ((handle {} (statusRequest starredTag)).runUnder .silent (Site.prompt ∅)).1.status =
          304 := by
  obtain ⟨hash, hhash, hcomma⟩ := @exists_currentHash? {} .silent (Site.prompt ∅)
    (statusRequest starredTag).session ⟨"61889"⟩ (by decide)
  obtain ⟨-, hstatus⟩ := @runUnder_handle_of_status {} .silent (Site.prompt ∅)
    (statusRequest starredTag).session (statusRequest starredTag) (some starredTag) (by decide)
    (by decide) (by decide)
  refine ⟨by decide, by decide, by decide, hash, hhash,
    Condition.not_names_of_commas hcomma (by decide), hstatus.2 ?_⟩
  exact ⟨hash, hhash, starredTag, rfl, .inr (by decide)⟩

end CampusView
