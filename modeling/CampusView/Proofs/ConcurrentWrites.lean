import CampusView.Proofs.FeedTrace

/-!
# Status feeds while user data is written

Any number of requests are under way, and their actions come in any order.

* A request that wrote the data of a user without an error has then forgotten what was cached of the
  user (`Settled`), and a request for the status feed shows a feed as `Shown` says. Every request
  keeps the cache traced and is answered so (`safe_program`).
* So a request for the status feed that begins after a write has returned shows the data of that
  write or of a later one, unless it finds the feed of a request that `Straddles` the write
  (`Pool.statusFeed_after_write`).
* The exception occurs, and a write that failed may be missed (`Race.statusFeed_misses_write`).
-/

namespace CampusView

open Json Time

/-- Whose data an operation writes. -/
def Operation.written? (auth : Authentication) : Operation → Option Uid
  | setPreferredName _ | recordFirstLogin => auth.userId
  | deleteUser target => some target
  | statusFeed | academicsFeed | delegateStudents => none

/-- The request wrote the data of the user. -/
def Written (thread : Nat) (uid : Uid) (log : List Moment) : Prop :=
  ∃ m ∈ log, m.thread = thread ∧ m.touch = .writesUser uid ∧ m.time < log.length

/-- The request wrote the data of the user, and then forgot what was cached of it. -/
def Settled (thread : Nat) (uid : Uid) (log : List Moment) : Prop :=
  ∃ m ∈ log, m.thread = thread ∧ m.touch = .writesUser uid ∧
    ∃ inv ∈ log, inv.thread = thread ∧ inv.touch = .invalidates (Cache.Key.user uid) ∧
      m.time < inv.time

/-- What holds of the reply to a request. -/
structure Answered (settings : Settings) (requests : List (Authentication × Operation))
    (campus : Campus) (thread : Nat) (auth : Authentication) (operation : Operation)
    (reply : Reply) (log : List Moment) : Prop where
  shown : operation = .statusFeed → ∀ uid, auth.userId = some uid →
    ∃ feed, reply = .statusFeed (.ok feed) ∧
      Shown settings requests campus thread uid (viewKey auth) feed.unstamped log
  settled : ∀ uid, operation.written? auth = some uid → reply.isError = false →
    Settled thread uid log

section

variable {settings : Settings} {requests : List (Authentication × Operation)} {campus : Campus}
  {log log' : List Moment} {uid : Uid} {thread : Nat} {auth : Authentication}

theorem Written.grown (h : Written thread uid log) (hgrown : Grown log log') :
    Written thread uid log' := by
  obtain ⟨m, hm, hthread, htouch, htime⟩ := h
  exact ⟨m, hgrown.keeps m hm, hthread, htouch, Nat.lt_of_lt_of_le htime hgrown.longer⟩

theorem Settled.grown (h : Settled thread uid log) (hgrown : Grown log log') :
    Settled thread uid log' := by
  obtain ⟨m, hm, hthread, htouch, inv, hinv, hinv'⟩ := h
  exact ⟨m, hgrown.keeps m hm, hthread, htouch, inv, hgrown.keeps inv hinv, hinv'⟩

/-! ### Requests that write -/

theorem safe_write {action : Action α} (htouch : action.touch = .writesUser uid)
    (log : List Moment) :
    (Program.perform action).Safe (Traced settings requests campus) thread
      (fun _ log => Written thread uid log) log := by
  intro log₁ w₁ _ htraced
  refine ⟨htraced.step thread action fun u v h => ?_, fun log₂ hlater => ?_⟩
  · rw [htouch] at h
    cases h
  · refine ⟨_, hlater.grown.keeps _ (moment_mem_noted log₁ thread action w₁), rfl, htouch, ?_⟩
    have hlonger := hlater.grown.longer
    rw [length_noted] at hlonger
    exact hlonger

theorem safe_invalidate (hwritten : Written thread uid log) :
    (Program.perform (.invalidate (Cache.Key.user uid))).Safe (Traced settings requests campus)
      thread (fun _ log => Settled thread uid log) log := by
  intro log₁ w₁ hlater htraced
  refine ⟨htraced.step thread _ (by rintro _ _ ⟨⟩), fun log₂ hlater' =>
    Settled.grown ?_ hlater'.grown⟩
  obtain ⟨m, hm, hthread, htouch, htime⟩ := hwritten.grown hlater.grown
  exact ⟨m, (grown_noted ..).keeps m hm, hthread, htouch, _, moment_mem_noted .., rfl, rfl, htime⟩

theorem safe_afterWrite (hwritten : Written thread uid log) (written : Except StoreFault UserData) :
    (afterWrite uid written).Safe (Traced settings requests campus) thread
      (fun answer log => answer.isOk → Settled thread uid log) log := by
  cases written with
  | error fault => exact fun _ _ h => nomatch h
  | ok data =>
    exact (safe_invalidate hwritten).bind fun _ _ hsettled _ hlater _ =>
      hsettled.grown hlater.grown

theorem safe_setPreferredName (value : String) (log : List Moment) :
    (setPreferredName auth value).Safe (Traced settings requests campus) thread
      (fun answer log => answer.isOk → ∀ uid, auth.userId = some uid → Settled thread uid log)
      log := by
  unfold setPreferredName
  cases hwriter : writer auth with
  | error e => exact fun _ _ h => nomatch h
  | ok u =>
    rw [(writer_eq_ok_iff.1 hwriter).1]
    refine (safe_write rfl log).bind fun written log₁ hwritten => ?_
    refine (safe_afterWrite hwritten written).mono fun answer log₂ hsettled hok uid huid => ?_
    exact Option.some.inj huid ▸ hsettled hok

theorem safe_recordFirstLogin (log : List Moment) :
    (recordFirstLogin auth).Safe (Traced settings requests campus) thread
      (fun answer log => answer.isOk → ∀ uid, auth.userId = some uid → Settled thread uid log)
      log := by
  unfold recordFirstLogin
  cases hwriter : writer auth with
  | error e => exact fun _ _ h => nomatch h
  | ok u =>
    rw [(writer_eq_ok_iff.1 hwriter).1]
    refine (quiet_readClock.safe thread log).bind fun now log₁ _ => ?_
    refine (safe_write rfl log₁).bind fun written log₂ hwritten => ?_
    refine (safe_afterWrite hwritten written).mono fun answer log₃ hsettled hok uid huid => ?_
    exact Option.some.inj huid ▸ hsettled hok

theorem safe_deleteUser (target : Uid) (log : List Moment) :
    (deleteUser settings auth target).Safe (Traced settings requests campus) thread
      (fun answer log => answer.isOk → Settled thread target log) log := by
  unfold deleteUser
  cases hsubject : subject auth with
  | error e => exact fun _ _ h => nomatch h
  | ok u =>
    refine ((quiet_inquire _ _).safe thread log).bind fun actor log₁ _ => ?_
    split
    · refine (safe_write rfl log₁).bind fun deleted _ hwritten =>
        (safe_invalidate hwritten).bind fun _ log₂ hsettled => ?_
      refine (((quiet_invalidate _).safe thread log₂).frame hsettled
        fun _ _ h h' => h'.grown h).bind ?_
      exact fun _ _ hsettled' _ hlater _ => hsettled'.2.grown hlater.grown
    · exact fun _ _ h => nomatch h

/-! ### Requests that read something else -/

theorem quiet_academicsFeed (ctx : Context) : (academicsFeed settings ctx).Quiet := by
  refine Program.Confined.quiet (confined_academicsFeed settings ctx fun uid u view htouch => ?_)
  exact Cache.Key.academics_ne_status uid u view (Touch.writesCache.inj htouch)

theorem quiet_delegateStudents : (delegateStudents settings auth).Quiet :=
  (confined_delegateStudents settings auth).quiet

/-! ### All requests -/

theorem safe_program_statusFeed (hrequest : requests[thread]? = some (auth, .statusFeed))
    (log : List Moment) :
    (Operation.statusFeed.program settings { auth }).Safe (Traced settings requests campus) thread
      (fun r log => Answered settings requests campus thread auth .statusFeed r.1 log) log := by
  cases huid : auth.userId with
  | none =>
    simp only [Operation.program, statusFeed, subject, huid]
    intro log₁ _
    refine ⟨fun _ uid huid' => ?_, by rintro _ ⟨⟩⟩
    rw [huid] at huid'
    cases huid'
  | some uid =>
    refine (safe_statusFeed hrequest huid log).bind fun r log₁ hr log₂ hlater => ?_
    refine ⟨fun _ uid' huid' => ?_, by rintro _ ⟨⟩⟩
    obtain rfl := Option.some.inj (huid.symm.trans huid')
    obtain ⟨feed, hfeed, hshown⟩ := hr
    exact ⟨feed, congrArg Reply.statusFeed hfeed, hshown.grown hlater.grown⟩

/-- Every request keeps the cache traced, and is answered as `Answered` says. -/
theorem safe_program {operation : Operation} (hrequest : requests[thread]? = some (auth, operation))
    (log : List Moment) :
    (operation.program settings { auth }).Safe (Traced settings requests campus) thread
      (fun r log => Answered settings requests campus thread auth operation r.1 log) log := by
  cases operation with
  | statusFeed => exact safe_program_statusFeed hrequest log
  | academicsFeed =>
    refine ((quiet_academicsFeed { auth }).safe thread log).bind fun r log₁ _ log₂ _ => ?_
    exact ⟨by rintro ⟨⟩, by rintro _ ⟨⟩⟩
  | delegateStudents =>
    refine (quiet_delegateStudents.safe thread log).bind fun answer log₁ _ log₂ _ => ?_
    exact ⟨by rintro ⟨⟩, by rintro _ ⟨⟩⟩
  | setPreferredName value =>
    refine (safe_setPreferredName value log).bind fun answer log₁ hsettled log₂ hlater => ?_
    refine ⟨by rintro ⟨⟩, fun uid huid hok => ?_⟩
    exact (hsettled (Bool.not_inj hok) uid huid).grown hlater.grown
  | recordFirstLogin =>
    refine (safe_recordFirstLogin log).bind fun answer log₁ hsettled log₂ hlater => ?_
    refine ⟨by rintro ⟨⟩, fun uid huid hok => ?_⟩
    exact (hsettled (Bool.not_inj hok) uid huid).grown hlater.grown
  | deleteUser target =>
    refine (safe_deleteUser target log).bind fun answer log₁ hsettled log₂ hlater => ?_
    refine ⟨by rintro ⟨⟩, fun uid huid hok => ?_⟩
    exact Option.some.inj huid ▸ (hsettled (Bool.not_inj hok)).grown hlater.grown

theorem Traced.wait {w : Site} (h : Traced settings requests campus log w) (n : Nanos)
    (t : Instant) : Traced settings requests campus log { w.wait n with wallClock := t } :=
  ⟨h.recorded.wait n t, h.answers, h.cache⟩

end

/-- Requests are safe, whatever has happened since they began over an empty cache. -/
theorem Pool.safe_run_start (settings : Settings) (requests : List (Authentication × Operation))
    {w : Site} (hcache : w.cache = ∅) (events : List Event) :
    ((Pool.start settings requests w).run events).Safe
      (Traced settings requests (w.answers settings)) fun thread r log =>
        ∀ auth operation, requests[thread]? = some (auth, operation) →
          Answered settings requests (w.answers settings) thread auth operation r.1 log := by
  refine Pool.Safe.run ⟨⟨.nil w, rfl, ?cache⟩, ?threads⟩ (fun _ _ n t h => h.wait n t) events
  case cache =>
    intro uid view e he
    rw [Pool.start, hcache] at he
    cases he
  case threads =>
    intro thread program hprogram
    rw [Pool.start, List.getElem?_map] at hprogram
    obtain ⟨⟨auth, operation⟩, hrequest, rfl⟩ := Option.map_eq_some_iff.1 hprogram
    refine (safe_program hrequest []).mono fun r log hr auth' operation' hrequest' => ?_
    rw [hrequest] at hrequest'
    obtain ⟨rfl, rfl⟩ := Prod.mk.inj (Option.some.inj hrequest')
    exact hr

/-! ### After a write -/

/-- The feed shows the data of a user. -/
structure Shows (settings : Settings) (campus : Campus) (uid : Uid) (view : String)
    (data : Option UserData) (feed : UserFeed) : Prop where
  firstLoginAt : feed.firstLoginAt = data.bind UserData.firstLoginAt
  preferredName : ∀ name, data.bind UserData.preferredName = some name → feed.preferredName = name
  composed : ∃ auth : Authentication, auth.userId = some uid ∧ viewKey auth = view ∧
    feed.unstamped = freshFeed settings campus auth uid data

/-- A request for the status feed in this view read the data of the user before the write `m`, in
the moment `rd`, kept its feed after the request that wrote had forgotten what was cached of the
user, and the request of number `r` found it. -/
structure Straddles (requests : List (Authentication × Operation)) (log : List Moment) (uid : Uid)
    (view : String) (r : Nat) (m rd : Moment) : Prop where
  request : ∃ auth, requests[rd.thread]? = some (auth, .statusFeed) ∧ auth.userId = some uid ∧
    viewKey auth = view
  mem : rd ∈ log
  touch : rd.touch = .readsUser uid
  before : rd.time < m.time
  after : ∃ inv ∈ log, inv.thread = m.thread ∧ inv.touch = .invalidates (Cache.Key.user uid) ∧
    m.time < inv.time ∧ ∃ wr hit, inv.time < wr.time ∧ hit.thread = r ∧
      Handed log uid view rd wr hit

section

variable {settings : Settings} {requests : List (Authentication × Operation)} {campus : Campus}
  {log : List Moment} {uid : Uid} {view : String} {rd m : Moment} {feed : UserFeed} {w : Site}

theorem ComposedOf.shows
    (h : ComposedOf settings requests campus log uid view rd feed.unstamped) :
    Shows settings campus uid view (rd.store.data? uid) feed := by
  obtain ⟨auth, -, huid, hview, hfeed⟩ := h.request
  refine ⟨congrArg UserFeed.firstLoginAt hfeed, fun name hname => ?_, auth, huid, hview, hfeed⟩
  show feed.unstamped.preferredName = name
  rw [hfeed]
  show (((rd.store.data? uid).bind UserData.preferredName).or _).getD "" = name
  rw [hname]
  rfl

/-- What was read after a write is the data of the write or of a later one. -/
theorem Recorded.shows_after (h : Recorded log w) (hm : m ∈ log)
    (htouch : m.touch = .writesUser uid) (hle : m.time ≤ rd.time)
    (hfeed : ComposedOf settings requests campus log uid view rd feed.unstamped) :
    ∃ last ∈ log, last.touch = .writesUser uid ∧ m.time ≤ last.time ∧
      Shows settings campus uid view (last.store.data? uid) feed := by
  obtain ⟨last, hlast, htouch', hle', hdata⟩ := h.data_after hm htouch hfeed.mem hle
  exact ⟨last, hlast, htouch', hle', hdata ▸ hfeed.shows⟩

end

/-- **A write is seen by whoever asks after it, but for races.** A request for the status feed that
begins after a write of the user's data has returned shows the data of that write or of a later one,
or else a feed that was composed of older data by a request that the write overtook. -/
theorem Pool.statusFeed_after_write (settings : Settings)
    (requests : List (Authentication × Operation)) {w : Site} (hcache : w.cache = ∅)
    (before after : List Event) {k r : Nat} {writer reader : Authentication}
    {operation : Operation} {uid : Uid} {answer reply : Reply} {ctx ctx' : Context}
    (hwriter : requests[k]? = some (writer, operation))
    (hwritten : operation.written? writer = some uid)
    (hreader : requests[r]? = some (reader, .statusFeed)) (huid : reader.userId = some uid)
    (hreturned : ((Pool.start settings requests w).run before).threads[k]? =
      some (.done (answer, ctx)))
    (hok : answer.isError = false)
    (hbegun : ∀ m ∈ ((Pool.start settings requests w).run before).log, m.thread ≠ r)
    (hanswered : ((Pool.start settings requests w).run (before ++ after)).threads[r]? =
      some (.done (reply, ctx'))) :
    let log := ((Pool.start settings requests w).run (before ++ after)).log
    ∃ feed, reply = .statusFeed (.ok feed) ∧
      ∃ m ∈ ((Pool.start settings requests w).run before).log,
        m.thread = k ∧ m.touch = .writesUser uid ∧
        ((∃ last ∈ log, last.touch = .writesUser uid ∧ m.time ≤ last.time ∧
          Shows settings (w.answers settings) uid (viewKey reader) (last.store.data? uid) feed) ∨
        ∃ rd, Straddles requests log uid (viewKey reader) r m rd ∧
          Shows settings (w.answers settings) uid (viewKey reader) (rd.store.data? uid) feed) := by
  intro log
  have hbefore := Pool.safe_run_start settings requests hcache before
  have hafter := Pool.safe_run_start settings requests hcache (before ++ after)
  have hgrown : Grown ((Pool.start settings requests w).run before).log log := by
    show Grown _ ((Pool.start settings requests w).run (before ++ after)).log
    rw [Pool.run_append]
    exact Pool.grown_run _ after
  obtain ⟨m, hm, hk, htouch, inv, hinv, hinvk, hinvtouch, hforgot⟩ :=
    (hbefore.answered hreturned writer operation hwriter).settled uid hwritten hok
  obtain ⟨feed, rfl, rd, hcomposed, hsource⟩ :=
    (hafter.answered hanswered reader .statusFeed hreader).shown rfl uid huid
  -- whatever the reader did came after the write had returned
  have hlate : ∀ a ∈ log, a.thread = r →
      ((Pool.start settings requests w).run before).log.length ≤ a.time := fun a ha hthread =>
    (hgrown.later a ha).resolve_left fun hold => hbegun a hold hthread
  refine ⟨feed, rfl, m, hm, hk, htouch, ?_⟩
  by_cases hle : m.time ≤ rd.time
  · exact .inl (hafter.invariant.recorded.shows_after (hgrown.keeps m hm) htouch hle hcomposed)
  · refine .inr ⟨rd, ?_, hcomposed.shows⟩
    obtain ⟨auth, hrequest, hauth, hview, -⟩ := hcomposed.request
    rcases hsource with hown | ⟨wr, hit, hitr, hhanded⟩
    · -- the reader itself read the data, so it did that after the write
      have hmtime := hbefore.invariant.recorded.times m hm
      have hrdtime := hlate rd hcomposed.mem hown
      omega
    · -- the feed was kept after the invalidation, since it was found after it
      have hinvtime : inv.time < hit.time := by
        have hold := hbefore.invariant.recorded.times inv hinv
        have hnew := hlate hit hhanded.found hitr
        omega
      have hkept : inv.time < wr.time :=
        hhanded.latest inv (hgrown.keeps inv hinv) hinvtouch hinvtime
      exact ⟨⟨auth, hrequest, hauth, hview⟩, hcomposed.mem, hcomposed.touch, Nat.lt_of_not_le hle,
        inv, hgrown.keeps inv hinv, hinvk.trans hk.symm, hinvtouch, hforgot, wr, hit, hkept, hitr,
        hhanded⟩

/-! ### A run without a race, and one with a race -/

section

variable {settings : Settings} {auth : Authentication} {uid : Uid}

theorem Pool.run_act {w : Site} {threads : List (Program (Reply × Context))} {log : List Moment}
    {i : Nat} {action : Action α} {rest : α → Program (Reply × Context)}
    (hi : threads[i]? = some (.act action rest)) (events : List Event) :
    (⟨w, threads, log⟩ : Pool).run (.step i :: events) =
      (⟨(action.step w).2, threads.set i (rest (action.step w).1), noted log i action w⟩ : Pool).run
        events := by
  simp only [Pool.run, List.foldl_cons, Pool.next, hi]

/-- A request that finds a status feed in the cache, and no stamp, shows it with a new stamp. -/
theorem Pool.run_hit {p : Pool} {i : Nat} (huid : auth.userId = some uid)
    (hthread : p.threads[i]? = some (Operation.statusFeed.program settings { auth }))
    {text : String} {feed : UserFeed}
    (hread : p.site.cache.read p.site.clock (Cache.Key.status uid (viewKey auth)) = some text)
    (hfeed : decodeText? text = some feed)
    (hstamp : p.site.cache.read p.site.clock (Cache.Key.stamp uid (viewKey auth)) = none) :
    ∃ w log, p.run [.step i, .step i, .step i, .step i] =
      ⟨w, p.threads.set i (.done (.statusFeed (.ok (feed.stamped p.site.wallClock)), { auth })),
        p.log ++ log⟩ ∧
      ∀ m ∈ log, ∀ u, m.touch ≠ .writesUser u := by
  obtain ⟨w, threads, log⟩ := p
  have hi : i < threads.length := (List.getElem?_eq_some_iff.1 hthread).1
  obtain ⟨t, ht⟩ := step_readClock w
  simp only [Operation.program, statusFeed, subject, huid, currentFeed, Program.cached,
    Program.perform_bind, Program.act_bind, Program.pure_bind'] at hthread
  -- the feed is found
  rw [Pool.run_act hthread]
  simp only [Action.step, hread, Option.bind_some, hfeed, stamp, Program.cached, Program.remember,
    Program.perform_bind, Program.act_bind, Program.pure_bind']
  -- no stamp is found
  rw [Pool.run_act (List.getElem?_set_self hi)]
  simp only [Action.step, hstamp, Option.bind_none, Option.filter_none, Program.act_bind,
    Program.pure_bind', List.set_set]
  -- the clock is read, and the new stamp is kept
  rw [Pool.run_act (List.getElem?_set_self hi)]
  simp only [ht, List.set_set]
  rw [Pool.run_act (List.getElem?_set_self hi)]
  simp only [noted, List.set_set, List.append_assoc]
  refine ⟨_, _, rfl, fun m hm u => ?_⟩
  simp only [List.mem_append, List.mem_singleton] at hm
  rcases hm with rfl | rfl | rfl | rfl <;> rintro ⟨⟩

end

namespace Race

/-- A user. -/
def uid : Uid := ⟨"61889"⟩

/-- The session of the user. -/
def auth : Authentication :=
  Authentication.ofSession ⟨[(SessionKey.userId, .string "61889")]⟩

/-- The user looks at the status feed, takes a name, and looks again. -/
def requests : List (Authentication × Operation) :=
  [(auth, .statusFeed), (auth, .setPreferredName "Oski"), (auth, .statusFeed)]

/-- A site on a day in August. -/
def site : Site where
  wallClock := ⟨⟨2016, 8, 24, by decide⟩, ⟨34200, 0, by decide⟩⟩

/-- The second look comes after the name, and nothing else happens. -/
theorem statusFeed_after_write_alone :
    let before := [Event.step 1, .step 1]
    let p := (Pool.start {} requests site).run before
    let q := (Pool.start {} requests site).run (before ++ List.replicate 7 (.step 2))
    ∃ feed ctx, q.threads[2]? = some (.done (.statusFeed (.ok feed), ctx)) ∧
      ∃ m ∈ p.log, m.thread = 1 ∧ m.touch = .writesUser uid ∧
        ((∃ last ∈ q.log, last.touch = .writesUser uid ∧ m.time ≤ last.time ∧
          Shows {} (site.answers {}) uid (viewKey auth) (last.store.data? uid) feed) ∨
        ∃ rd, Straddles requests q.log uid (viewKey auth) 2 m rd ∧
          Shows {} (site.answers {}) uid (viewKey auth) (rd.store.data? uid) feed) := by
  intro before p q
  obtain ⟨reply, ctx, hanswered⟩ : ∃ reply ctx, q.threads[2]? = some (.done (reply, ctx)) :=
    ⟨_, _, rfl⟩
  obtain ⟨feed, rfl, hfeed⟩ := Pool.statusFeed_after_write {} requests rfl before
    (List.replicate 7 (.step 2)) (k := 1) rfl rfl rfl rfl rfl rfl (by decide +kernel) hanswered
  exact ⟨feed, ctx, hanswered, hfeed⟩

/-- In this order of events the second request is answered before the third begins. The third shows
a name, and the writes of the user's data left other data. -/
def Misses (requests : List (Authentication × Operation)) (site : Site) (before : List Event)
    (answer : Except ServiceError UserData) (name : String) (data : Option UserData) : Prop :=
  let p := (Pool.start {} requests site).run before
  let q := (Pool.start {} requests site).run (before ++ [.step 2, .step 2, .step 2, .step 2])
  p.threads[1]? = some (.done (.userData answer, { auth })) ∧
    (∀ m ∈ p.log, m.thread ≠ 2) ∧
    ∃ feed, q.threads[2]? = some (.done (.statusFeed (.ok feed), { auth })) ∧
      feed.preferredName = name ∧
      ∀ m ∈ q.log, m.touch = .writesUser uid → m.store.data? uid = data

/-- A feed of the data at the begin that is in the cache when the third request begins is shown. -/
theorem misses_of_read {requests : List (Authentication × Operation)} {site : Site}
    {before : List Event} {answer : Except ServiceError UserData} {name : String}
    {data : Option UserData} :
    let p := (Pool.start {} requests site).run before
    let feed := freshFeed {} (site.answers {}) auth uid (site.store.data? uid)
    p.threads[1]? = some (.done (.userData answer, { auth })) →
      p.threads[2]? = some (Operation.statusFeed.program {} { auth }) →
      (∀ m ∈ p.log, m.thread ≠ 2) →
      p.site.cache.read p.site.clock (Cache.Key.status uid (viewKey auth)) =
        some (encodeText feed) →
      p.site.cache.read p.site.clock (Cache.Key.stamp uid (viewKey auth)) = none →
      feed.preferredName = name →
      (∀ m ∈ p.log, m.touch = .writesUser uid → m.store.data? uid = data) →
      Misses requests site before answer name data := by
  intro p feed hanswer hthread hbegun hread hstamp hname hwritten
  obtain ⟨w, log, hq, hlog⟩ := @Pool.run_hit {} auth uid p 2 rfl hthread _ _ hread
    (decodeText?_freshFeed {} (site.answers {}) auth uid site.store) hstamp
  rw [← Pool.run_append] at hq
  refine ⟨hanswer, hbegun, feed.stamped p.site.wallClock, ?_, hname, fun m hm htouch => ?_⟩
  · rw [hq]
    exact List.getElem?_set_self (List.getElem?_eq_some_iff.1 hthread).1
  · rw [hq] at hm
    rcases List.mem_append.1 hm with hm | hm
    · exact hwritten m hm htouch
    · exact absurd htouch (hlog m hm uid)

/-- The user looks at the status feed, has the first login kept, and looks again. -/
def lateRequests : List (Authentication × Operation) :=
  [(auth, .statusFeed), (auth, .recordFirstLogin), (auth, .statusFeed)]

/-- A site that knows the name of the user, in a year that cannot be read back. -/
def lateSite : Site where
  wallClock := ⟨⟨10000, 8, 24, by decide⟩, ⟨34200, 0, by decide⟩⟩
  store := ((∅ : Store).setName uid (some "Oski")).2

/-- Two ways to miss a write. The first look reads the data before the name is taken and keeps its
feed after what was cached of the user was forgotten. And nothing is forgotten after a login that is
kept but cannot be read back. -/
theorem statusFeed_misses_write :
    Misses requests site [.step 0, .step 0, .step 1, .step 1, .step 0, .step 0]
      (.ok ⟨uid, some "Oski", none⟩) "" (some ⟨uid, some "Oski", none⟩) ∧
    Misses lateRequests lateSite [.step 0, .step 0, .step 0, .step 0, .step 1, .step 1]
      (.error (.store .unreadableLogin)) "Oski" none :=
  ⟨misses_of_read rfl rfl (by decide +kernel) rfl (by decide +kernel) (by decide +kernel)
      (by decide +kernel),
    misses_of_read rfl rfl (by decide +kernel) rfl (by decide +kernel) (by decide +kernel)
      (by decide +kernel)⟩

end Race

end CampusView
