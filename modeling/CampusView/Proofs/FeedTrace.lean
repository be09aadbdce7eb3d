import CampusView.Proofs.Composition
import CampusView.Proofs.Footprints
import CampusView.Proofs.KeySpace
import CampusView.Proofs.StoreHistory

/-!
# Where status feeds come from

While many requests are under way, a request for the status feed shows what it composed itself or
what another one composed and kept. `Traced` is the invariant: every status feed in the cache was
composed of data that was read at some moment, and kept after everything of the user was last
forgotten. Every action of every request keeps it (`Traced.step`, `Traced.wrote`), so `Shown` holds
of what a request for the status feed is answered (`safe_statusFeed`).
-/

namespace CampusView

open Json Time

/-- The request that read the data of the user in the moment `rd` kept its feed in the moment `wr`,
it was found in the moment `hit`, and nothing of the user was forgotten in between. -/
structure Handed (log : List Moment) (uid : Uid) (view : String) (rd wr hit : Moment) : Prop where
  kept : wr ∈ log
  thread : wr.thread = rd.thread
  keeps : wr.touch = .writesCache (Cache.Key.status uid view)
  found : hit ∈ log
  finds : hit.touch = .readsCache (Cache.Key.status uid view)
  before : wr.time < hit.time
  past : hit.time < log.length
  latest : ∀ m ∈ log, m.touch = .invalidates (Cache.Key.user uid) → m.time < hit.time →
    m.time < wr.time

section

variable (settings : Settings) (requests : List (Authentication × Operation)) (campus : Campus)

/-! ### Where feeds come from -/

/-- The feed was composed by a request for the status feed in this view, of the data that it read in
the moment `rd`. -/
structure ComposedOf (log : List Moment) (uid : Uid) (view : String) (rd : Moment)
    (feed : UserFeed) : Prop where
  mem : rd ∈ log
  touch : rd.touch = .readsUser uid
  request : ∃ auth, requests[rd.thread]? = some (auth, .statusFeed) ∧ auth.userId = some uid ∧
    viewKey auth = view ∧ feed = freshFeed settings campus auth uid (rd.store.data? uid)

/-- The text was written in the moment `wr` by the request that composed the feed, and nothing of
the user was forgotten since. -/
structure WrittenAt (log : List Moment) (uid : Uid) (view text : String) (rd wr : Moment) :
    Prop where
  composed : ∃ feed, ComposedOf settings requests campus log uid view rd feed ∧
    text = encodeText feed
  mem : wr ∈ log
  thread : wr.thread = rd.thread
  touch : wr.touch = .writesCache (Cache.Key.status uid view)
  latest : ∀ m ∈ log, m.touch = .invalidates (Cache.Key.user uid) → m.time < wr.time

/-- The feed that a request shows was composed by itself, or by another one that handed it over. -/
def Shown (thread : Nat) (uid : Uid) (view : String) (feed : UserFeed) (log : List Moment) : Prop :=
  ∃ rd, ComposedOf settings requests campus log uid view rd feed ∧
    (rd.thread = thread ∨ ∃ wr hit, hit.thread = thread ∧ Handed log uid view rd wr hit)

/-- The log says how the store came about, campus systems answer as they do, and every status feed
in the cache was written as `WrittenAt` says. -/
structure Traced (log : List Moment) (w : Site) : Prop where
  recorded : Recorded log w
  answers : w.answers settings = campus
  cache : ∀ uid view e, w.cache.entry? (Cache.Key.status uid view) = some e →
    ∃ rd wr, WrittenAt settings requests campus log uid view e.value rd wr

end

section

variable {settings : Settings} {requests : List (Authentication × Operation)} {campus : Campus}
  {log log' : List Moment} {uid : Uid} {view : String} {rd wr : Moment} {feed : UserFeed}
  {thread : Nat} {w : Site}

theorem ComposedOf.grown (h : ComposedOf settings requests campus log uid view rd feed)
    (hgrown : Grown log log') : ComposedOf settings requests campus log' uid view rd feed :=
  ⟨hgrown.keeps rd h.mem, h.touch, h.request⟩

theorem Handed.grown {hit : Moment} (h : Handed log uid view rd wr hit)
    (hgrown : Grown log log') : Handed log' uid view rd wr hit where
  kept := hgrown.keeps wr h.kept
  thread := h.thread
  keeps := h.keeps
  found := hgrown.keeps hit h.found
  finds := h.finds
  before := h.before
  past := Nat.lt_of_lt_of_le h.past hgrown.longer
  latest := by
    intro m hm hinvalidates hbefore
    rcases hgrown.later m hm with hm | hm
    · exact h.latest m hm hinvalidates hbefore
    · have hpast := h.past
      omega

theorem Shown.grown (h : Shown settings requests campus thread uid view feed log)
    (hgrown : Grown log log') : Shown settings requests campus thread uid view feed log' := by
  obtain ⟨rd, hcomposed, hown | ⟨wr, hit, hthread, hhanded⟩⟩ := h
  · exact ⟨rd, hcomposed.grown hgrown, .inl hown⟩
  · exact ⟨rd, hcomposed.grown hgrown, .inr ⟨wr, hit, hthread, hhanded.grown hgrown⟩⟩

theorem Shown.lastModified (h : Shown settings requests campus thread uid view feed log) :
    feed.lastModified = none := by
  obtain ⟨rd, hcomposed, -⟩ := h
  obtain ⟨auth, -, -, -, rfl⟩ := hcomposed.request
  rfl

/-! ### What actions do to the cache -/

theorem answers_step (action : Action α) (w : Site) (settings : Settings) :
    (action.step w).2.answers settings = w.answers settings := by
  cases action with
  | readClock =>
    obtain ⟨t, ht⟩ := step_readClock w
    rw [ht]
    rfl
  | _ => rfl

/-- An action that writes no entry leaves the entries that it does not forget. -/
theorem entry_of_step {action : Action α} {key : String} {e : CacheEntry}
    (hwrite : action.touch ≠ .writesCache key) (he : (action.step w).2.cache.entry? key = some e) :
    w.cache.entry? key = some e ∧
      ∀ root, action.touch = .invalidates root → Cache.covers root key = false := by
  cases action with
  | writeCache k text ttl =>
    have hne : key ≠ k := fun h => hwrite (h ▸ rfl)
    simp only [Action.step, Cache.write, if_neg hne] at he
    exact ⟨(Option.filter_eq_some_iff.1 he).1, by rintro _ ⟨⟩⟩
  | invalidate root =>
    obtain ⟨hcovers, he⟩ := Option.ite_none_left_eq_some.1 he
    refine ⟨he, fun root' hroot => ?_⟩
    obtain rfl := Touch.invalidates.inj hroot
    exact Bool.eq_false_iff.2 hcovers
  | readCache k => exact ⟨he, by rintro _ ⟨⟩⟩
  | readUser u => exact ⟨he, by rintro _ ⟨⟩⟩
  | setName u name => exact ⟨he, by rintro _ ⟨⟩⟩
  | recordLogin u at_ => exact ⟨he, by rintro _ ⟨⟩⟩
  | deleteUser u => exact ⟨he, by rintro _ ⟨⟩⟩
  | inquire limit q => exact ⟨he, by rintro _ ⟨⟩⟩
  | readClock =>
    obtain ⟨t, ht⟩ := step_readClock w
    rw [ht] at he
    exact ⟨he, by rintro _ ⟨⟩⟩

/-- What was written stays so while nothing of the user is forgotten. -/
theorem WrittenAt.step {text : String}
    (h : WrittenAt settings requests campus log uid view text rd wr) (thread : Nat)
    (action : Action α) (w : Site) (hkeeps : action.touch ≠ .invalidates (Cache.Key.user uid)) :
    WrittenAt settings requests campus (noted log thread action w) uid view text rd wr := by
  obtain ⟨⟨feed, hcomposed, htext⟩, hmem, hthread, htouch, hlatest⟩ := h
  refine ⟨⟨feed, hcomposed.grown (grown_noted log thread action w), htext⟩,
    (grown_noted log thread action w).keeps wr hmem, hthread, htouch, fun m hm hinvalidates => ?_⟩
  rcases (mem_noted log thread action w).1 hm with hm | rfl
  · exact hlatest m hm hinvalidates
  · exact absurd hinvalidates hkeeps

/-- An action that keeps no status feed leaves the cache traced. -/
theorem Traced.step (h : Traced settings requests campus log w) (thread : Nat) (action : Action α)
    (hquiet : ∀ uid view, action.touch ≠ .writesCache (Cache.Key.status uid view)) :
    Traced settings requests campus (noted log thread action w) (action.step w).2 where
  recorded := h.recorded.step thread action
  answers := (answers_step action w settings).trans h.answers
  cache := fun uid view e he => by
    obtain ⟨he, hcovers⟩ := entry_of_step (hquiet uid view) he
    obtain ⟨rd, wr, hwritten⟩ := h.cache uid view e he
    -- an entry that is still there was not forgotten
    refine ⟨rd, wr, hwritten.step thread action w fun htouch => ?_⟩
    have hforgotten := hcovers _ htouch
    rw [Cache.covers_user_status, decide_eq_false_iff_not] at hforgotten
    exact hforgotten rfl

/-- A request that keeps the feed that it composed leaves the cache traced. -/
theorem Traced.wrote (h : Traced settings requests campus log w)
    (hcomposed : ComposedOf settings requests campus log uid view rd feed) (ttl : Nanos) :
    Traced settings requests campus
      (noted log rd.thread (.writeCache (Cache.Key.status uid view) (encodeText feed) ttl) w)
      ((Action.writeCache (Cache.Key.status uid view) (encodeText feed) ttl).step w).2 := by
  let action := Action.writeCache (Cache.Key.status uid view) (encodeText feed) ttl
  refine ⟨h.recorded.step rd.thread action, (answers_step action w settings).trans h.answers,
    fun u v e he => ?_⟩
  by_cases hkey : Cache.Key.status u v = Cache.Key.status uid view
  · -- the entry is new, and everything that was forgotten was forgotten before
    obtain ⟨rfl, rfl⟩ := Cache.Key.status_inj hkey
    simp only [Action.step, Cache.write, if_true] at he
    obtain rfl := Option.some.inj he
    refine ⟨rd, moment log rd.thread action w, ⟨feed, hcomposed.grown (grown_noted ..), rfl⟩,
      moment_mem_noted .., rfl, rfl, fun m hm hinvalidates => ?_⟩
    rcases (mem_noted ..).1 hm with hm | rfl
    · exact h.recorded.times m hm
    · cases hinvalidates
  · have hwrite : action.touch ≠ .writesCache (Cache.Key.status u v) :=
      fun htouch => hkey (Touch.writesCache.inj htouch).symm
    obtain ⟨he, -⟩ := entry_of_step hwrite he
    obtain ⟨rd', wr', hwritten⟩ := h.cache u v e he
    exact ⟨rd', wr', hwritten.step rd.thread action w (by rintro ⟨⟩)⟩

/-! ### Requests that keep no status feed -/

/-- No action of the program keeps a status feed. -/
def Program.Quiet : Program α → Prop
  | .done _ => True
  | .act action next =>
    (∀ uid view, action.touch ≠ .writesCache (Cache.Key.status uid view)) ∧ ∀ b, (next b).Quiet

theorem Program.Quiet.safe {p : Program α} (h : p.Quiet) (thread : Nat) (log : List Moment) :
    p.Safe (Traced settings requests campus) thread (fun _ _ => True) log := by
  induction p generalizing log with
  | done a => exact fun _ _ => trivial
  | act action next ih =>
    intro log' w _ htraced
    exact ⟨htraced.step thread action h.1, ih _ (h.2 _) _⟩

/-- The touch keeps no status feed. -/
def Touch.KeepsNoFeed (t : Touch) : Prop := ∀ uid view, t ≠ .writesCache (Cache.Key.status uid view)

theorem Program.Confined.quiet {p : Program α} {Q : α → Prop} (h : p.Confined Touch.KeepsNoFeed Q) :
    p.Quiet := by
  induction p with
  | done a => trivial
  | act action next ih =>
    refine ⟨fun uid view => ?_, fun b => ih b (h.2 b)⟩
    exact Touch.ne_of_not h.1 rfl fun h => h uid view rfl

theorem quiet_inquire (limit : Nanos) (q : Inquiry α) :
    (Program.perform (.inquire limit q)).Quiet := (confined_inquire limit q).quiet

theorem quiet_invalidate (root : String) : (Program.perform (.invalidate root)).Quiet :=
  Program.Confined.quiet (confined_invalidate nofun)

theorem quiet_readClock : (Program.perform .readClock).Quiet := confined_readClock.quiet

theorem quiet_stamp (uid : Uid) (view hash : String) :
    (stamp (Cache.Key.stamp uid view) hash).Quiet := by
  refine Program.Confined.quiet (confined_stamp (fun u v htouch => ?_) hash)
  exact Cache.Key.stamp_ne_status uid u view v (Touch.writesCache.inj htouch)

/-! ### The status feed -/

theorem safe_composeFeed {auth : Authentication}
    (hrequest : requests[thread]? = some (auth, .statusFeed)) (huid : auth.userId = some uid)
    (log : List Moment) :
    (composeFeed settings { auth } uid).Safe (Traced settings requests campus) thread
      (fun c log => ∃ rd, rd.thread = thread ∧
        ComposedOf settings requests campus log uid (viewKey auth) rd c.feed) log := by
  intro log₁ w₁ _ htraced₁
  refine ⟨htraced₁.step thread _ (by rintro _ _ ⟨⟩), ?_⟩
  intro log₂ w₂ hlater htraced₂
  refine ⟨htraced₂.step thread _ (by rintro _ _ ⟨⟩), ?_⟩
  intro log₃ hlater'
  refine ⟨moment log₁ thread (.readUser uid) w₁, rfl, ?_, rfl, auth, hrequest, huid, rfl, ?_⟩
  · exact hlater'.grown.keeps _ ((grown_noted ..).keeps _
      (hlater.grown.keeps _ (moment_mem_noted ..)))
  · rw [freshFeed, ← htraced₂.answers]
    rfl

/-- What is found in the cache was kept after everything of the user was last forgotten. -/
theorem Traced.shown_of_read (h : Traced settings requests campus log w)
    (hread : (w.cache.read w.clock (Cache.Key.status uid view)).bind decodeText? = some feed) :
    Shown settings requests campus thread uid view feed
      (noted log thread (.readCache (Cache.Key.status uid view)) w) := by
  obtain ⟨text, htext, hfeed⟩ := Option.bind_eq_some_iff.1 hread
  obtain ⟨e, he, rfl⟩ := Cache.truthful_read _ _ _ _ htext
  obtain ⟨rd, wr, ⟨feed₀, hcomposed, htext₀⟩, hwr, hthread, htouch, hlatest⟩ :=
    h.cache uid view e he
  -- what is read back is what was written
  have hfeed₀ : feed = feed₀ := by
    obtain ⟨auth, -, -, -, hfresh⟩ := hcomposed.request
    rw [htext₀, hfresh, decodeText?_freshFeed] at hfeed
    rw [hfresh, Option.some.inj hfeed]
  subst hfeed₀
  let action := Action.readCache (Cache.Key.status uid view)
  refine ⟨rd, hcomposed.grown (grown_noted ..), .inr ⟨wr, moment log thread action w, rfl, ?_⟩⟩
  refine ⟨(grown_noted ..).keeps wr hwr, hthread, htouch, moment_mem_noted .., rfl,
    h.recorded.times wr hwr, ?_, fun m hm hinvalidates hbefore => ?_⟩
  · rw [length_noted]
    exact Nat.lt_succ_self _
  · rcases (mem_noted log thread action w).1 hm with hm | rfl
    · exact hlatest m hm hinvalidates
    · exact absurd hbefore (Nat.lt_irrefl _)

theorem safe_cached (uid : Uid) (view : String) (log : List Moment) :
    (Program.cached (Cache.Key.status uid view)).Safe (Traced settings requests campus) thread
      (fun found log => ∀ feed, found = some feed →
        Shown settings requests campus thread uid view feed log) log := by
  intro log₁ w₁ _ htraced
  refine ⟨htraced.step thread _ (by rintro _ _ ⟨⟩), fun log₂ hlater feed hfeed => ?_⟩
  exact (htraced.shown_of_read hfeed).grown hlater.grown

theorem safe_currentFeed {auth : Authentication}
    (hrequest : requests[thread]? = some (auth, .statusFeed)) (huid : auth.userId = some uid)
    (log : List Moment) :
    (currentFeed settings { auth } uid).Safe (Traced settings requests campus) thread
      (fun r log => Shown settings requests campus thread uid (viewKey auth) r.1 log) log := by
  refine (safe_cached uid (viewKey auth) log).bind fun found log₁ hfound => ?_
  cases found with
  | some feed => exact fun log₂ hlater => (hfound feed rfl).grown hlater.grown
  | none =>
    refine (safe_composeFeed hrequest huid log₁).bind fun c log₂ hc => ?_
    obtain ⟨rd, rfl, hcomposed⟩ := hc
    intro log₃ w₃ hlater htraced₃
    refine ⟨htraced₃.wrote (hcomposed.grown hlater.grown) _, fun log₄ hlater' => ⟨rd, ?_, .inl rfl⟩⟩
    exact ((hcomposed.grown hlater.grown).grown (grown_noted ..)).grown hlater'.grown

/-- A request for the status feed is answered with a feed, which is as `Shown` says. -/
theorem safe_statusFeed {auth : Authentication}
    (hrequest : requests[thread]? = some (auth, .statusFeed)) (huid : auth.userId = some uid)
    (log : List Moment) :
    (statusFeed settings { auth }).Safe (Traced settings requests campus) thread
      (fun r log => ∃ feed, r.1 = .ok feed ∧
        Shown settings requests campus thread uid (viewKey auth) feed.unstamped log) log := by
  simp only [statusFeed, subject, huid]
  refine (safe_currentFeed hrequest huid log).bind fun r log₁ hshown => ?_
  refine (((quiet_stamp uid _ _).safe thread log₁).frame hshown fun _ _ h h' => h'.grown h).bind ?_
  rintro last log₂ ⟨-, hshown⟩ log₃ hlater
  refine ⟨_, rfl, ?_⟩
  have hunstamped : ({ r.1 with lastModified := some last } : UserFeed).unstamped = r.1 := by
    rw [UserFeed.unstamped, ← hshown.lastModified]
  rw [hunstamped]
  exact hshown.grown hlater.grown

end

end CampusView
