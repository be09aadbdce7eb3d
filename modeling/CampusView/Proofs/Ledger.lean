import CampusView.Proofs.Outcome
import CampusView.Turn
import Mathlib.Data.List.Forall2

/-!
# The ledger of a desk

A `Ledger` is what is left of a desk when the cache is taken away: the store, and who opened each
request. Taking a turn at a desk does to the ledger what `Ledger.turn` does, and is answered like it
(`turnBy_posts`), however the cache is read, as long as everything in it is current; and so for one
turn after another (`runBy_posts`).
-/

namespace CampusView

open Json Time

/-- The kept data, and the sessions of the requests opened so far. -/
structure Ledger where
  store : Store
  sessions : List Authentication

namespace Ledger

/-- What a turn is answered, and the ledger after it. -/
def turn (settings : Settings) (campus : Campus) (t : Turn) (l : Ledger) : Option Reply × Ledger :=
  match t.errand with
  | .enter session =>
    (some (.opened (Authentication.ofSession session)),
      { l with sessions := l.sessions ++ [Authentication.ofSession session] })
  | .within number operation =>
    match l.sessions[number]? with
    | none => (none, l)
    | some auth =>
      (some (operation.answer settings campus l.store t.wallClock auth),
        { l with store := operation.effect campus t.wallClock auth l.store })

/-- What turns are answered, and the ledger after them. -/
def run (settings : Settings) (campus : Campus) : List Turn → Ledger → List (Option Reply) × Ledger
  | [], l => ([], l)
  | t :: ts, l =>
    let r := l.turn settings campus t
    let rest := r.2.run settings campus ts
    (r.1 :: rest.1, rest.2)

end Ledger

/-- The ledger of a desk. -/
def Desk.ledger (d : Desk) : Ledger := ⟨d.site.store, d.opened.map Context.auth⟩

/-- The clock shows a year of four digits, and a request that is opened is of a session of `S`. -/
structure Turn.Ordinary (S : Set Authentication) (t : Turn) : Prop where
  year : FourDigits t.wallClock.date.year
  session : ∀ session, t.errand = .enter session → Authentication.ofSession session ∈ S

/-- The open requests are of sessions of `S`, and what is settled in them and kept in the cache is
current. -/
structure Desk.Sound (S : Set Authentication) (settings : Settings) (campus : Campus) (d : Desk) :
    Prop where
  opened : ∀ ctx ∈ d.opened, ctx.auth ∈ S ∧ ctx.Sound settings campus
  current : d.site.cache.Holds (Current S settings campus d.site.store)
  answers : d.site.answers settings = campus

section

variable {S : Set Authentication} {settings : Settings} {read : Cache.Reader} {campus : Campus}
  {d : Desk} {t : Turn}

/-- While nobody is held, a request is opened as the session says. -/
theorem runBy_authenticate (hvalidator : settings.flags.authenticationValidator = false)
    (session : SessionRecord) (w : Site) :
    (authenticate settings session).runBy read w =
      ({ auth := Authentication.ofSession session }, w) := by
  unfold authenticate
  generalize Authentication.ofSession session = auth
  obtain ⟨userId, viewer, advisor, delegate, canvas, lti⟩ := auth
  cases userId with
  | none => rfl
  | some uid =>
    simp only [letIn, hvalidator, Bool.false_eq_true, if_false, pure_bind]
    split <;> rfl

theorem set_of_getElem? {α : Type} {l : List α} {i : Nat} {a : α} (h : l[i]? = some a) :
    l.set i a = l := by
  obtain ⟨hi, rfl⟩ := List.getElem?_eq_some_iff.1 h
  exact List.set_getElem_self hi

/-- A turn leaves the desk sound, and answers and does to the ledger what the ledger says. -/
theorem turnBy_posts (hS : ∀ a ∈ S, ∀ b ∈ S, a.SameView b → a.SameStanding b)
    (hread : Cache.Truthful read) (hvalidator : settings.flags.authenticationValidator = false)
    (ht : t.Ordinary S) (hd : d.Sound S settings campus) (at_ : Instant) :
    Option.Rel (Reply.Matches read campus at_) (d.turnBy read settings t).1
        (d.ledger.turn settings campus t).1 ∧
      (d.turnBy read settings t).2.ledger = (d.ledger.turn settings campus t).2 ∧
      (d.turnBy read settings t).2.Sound S settings campus := by
  have hbegin : (t.begin d.site).answers settings = campus := hd.answers
  unfold Desk.turnBy Ledger.turn
  cases herrand : t.errand with
  | enter session =>
    simp only [runBy_authenticate hvalidator]
    refine ⟨.some (.same rfl), ?_, ?_, hd.current, hbegin⟩
    · simp only [Desk.ledger, List.map_append]
      rfl
    · intro ctx hctx
      rcases List.mem_append.1 hctx with hctx | hctx
      · exact hd.opened ctx hctx
      · obtain rfl := List.mem_singleton.1 hctx
        exact ⟨ht.session session herrand, Context.sound_of_auth _ _ _⟩
  | within number operation =>
    have hsession : d.ledger.sessions[number]? = d.opened[number]?.map Context.auth :=
      List.getElem?_map ..
    cases hopened : d.opened[number]? with
    | none =>
      simp only [hsession, hopened, Option.map_none]
      exact ⟨.none, rfl, hd.opened, hd.current, hbegin⟩
    | some ctx =>
      obtain ⟨hauth, hctx⟩ := hd.opened ctx (List.mem_of_getElem? hopened)
      have hout := @runBy_program S settings read ctx (t.begin d.site) hS hread ht.year hauth
        (hbegin ▸ hctx) (hbegin ▸ hd.current) operation
      simp only [hsession, hopened, Option.map_some]
      obtain ⟨hreply, hauth', hctx', hstore, hcampus', hdelay, hcurrent⟩ := hout
      rw [hbegin] at hreply hctx' hstore hcurrent
      refine ⟨.some (hreply at_), ?_, ?_, hcurrent, ?_⟩
      · -- who opened a request stays the same when its privileges are settled
        apply congrArg₂ Ledger.mk hstore
        rw [List.map_set, hauth', set_of_getElem? (by rw [List.getElem?_map, hopened]; rfl)]
        rfl
      · intro ctx' hmem
        rcases List.mem_or_eq_of_mem_set hmem with hmem | rfl
        · exact hd.opened ctx' hmem
        · exact ⟨hauth' ▸ hauth, hctx'⟩
      · rw [← hbegin, Site.answers, Site.answers, hcampus', hdelay]

/-- Turns leave the desk sound, and answer and do to the ledger what the ledger says. -/
theorem runBy_posts (hS : ∀ a ∈ S, ∀ b ∈ S, a.SameView b → a.SameStanding b)
    (hread : Cache.Truthful read) (hvalidator : settings.flags.authenticationValidator = false)
    {ts : List Turn} (hts : ∀ t ∈ ts, t.Ordinary S) (hd : d.Sound S settings campus)
    (at_ : Instant) :
    List.Forall₂ (Option.Rel (Reply.Matches read campus at_)) (d.runBy read settings ts).1
        (d.ledger.run settings campus ts).1 ∧
      (d.runBy read settings ts).2.ledger = (d.ledger.run settings campus ts).2 ∧
      (d.runBy read settings ts).2.Sound S settings campus := by
  induction ts generalizing d with
  | nil => exact ⟨.nil, rfl, hd⟩
  | cons t ts ih =>
    obtain ⟨ht, hts⟩ := List.forall_mem_cons.1 hts
    obtain ⟨hreply, hledger, hsound⟩ := turnBy_posts hS hread hvalidator ht hd at_
    obtain ⟨hreplies, hledger', hsound'⟩ := ih hts hsound
    rw [hledger] at hreplies hledger'
    exact ⟨.cons hreply hreplies, hledger', hsound'⟩

end

/-! ### Sound desks -/

/-- At a sound desk the status feed of a request is the one that would be composed. -/
theorem Desk.Sound.statusFeed {S : Set Authentication} {settings : Settings} {campus : Campus}
    {d : Desk} (hd : d.Sound S settings campus)
    (hS : ∀ a ∈ S, ∀ b ∈ S, a.SameView b → a.SameStanding b) {ctx : Context} (hctx : ctx ∈ d.opened)
    {uid : Uid} (huid : ctx.auth.userId = some uid) (n : Nanos) :
    ∃ time, ((CampusView.statusFeed settings ctx).run (d.site.wait n)).1.1 =
      .ok ((freshFeed settings campus ctx.auth uid (d.site.store.data? uid)).stamped time) := by
  obtain ⟨hauth, hsettled⟩ := hd.opened ctx hctx
  obtain ⟨hopened, hcurrent, rfl⟩ := hd
  obtain ⟨time, ctx', w', hrun, -⟩ := runBy_statusFeed Cache.read (w := d.site.wait n) hsettled huid
    (fun now text htext f hf =>
      (hcurrent.of_read Cache.truthful_read htext).eq_freshFeed hS hauth huid hf)
    (.feed hauth huid) (fun text => .stamp _ _ text) hcurrent
  rw [Program.runBy_read] at hrun
  exact ⟨time, congrArg (fun r => r.1.1) hrun⟩

/-- A site with an empty cache where nobody has opened a request. -/
theorem Desk.sound_of_empty {S : Set Authentication} {settings : Settings} {w : Site}
    (hcache : w.cache = ∅) : ({ site := w } : Desk).Sound S settings (w.answers settings) where
  opened := fun _ h => nomatch h
  current := by
    show w.cache.Holds _
    rw [hcache]
    exact Cache.holds_empty
  answers := rfl

end CampusView
