import CampusView.Conduct
import CampusView.Turn

/-!
# What is seen of a feed over time

`Desk.turnUnder` takes a turn while the campus systems behave in some way, which is `Desk.turnBy`
where their behaviour is steady (`turnUnder_steady`). A `Sighting` is what an answer with a status
feed tells of its last change, with the readings of both clocks. `Desk.sightings` lists the
sightings of the feed of one user in one view while turns are taken, whatever else is done in them.
-/

namespace CampusView

open Time

/-- What an answer with a status feed tells of its last change. -/
structure Sighting where
  /-- The hash of the content. -/
  hash : String
  /-- The time of the last change. -/
  timestamp : Instant
  /-- What the monotonic clock read then. -/
  clock : Nanos
  /-- What the clock on the wall showed then. -/
  wallClock : Instant
deriving DecidableEq, Repr

namespace Desk

/-- Take a turn while the campus systems behave in some way. There is no reply within a request that
was not opened. -/
def turnUnder (u : Conduct) (settings : Settings) (t : Turn) (d : Desk) : Option Reply × Desk :=
  let w := t.begin d.site
  match t.errand with
  | .enter session =>
    let r := (authenticate settings session).runUnder u w
    (some (.opened r.1.auth), { site := r.2, opened := d.opened ++ [r.1] })
  | .within number operation =>
    match d.opened[number]? with
    | none => (none, { d with site := w })
    | some ctx =>
      let r := (operation.program settings ctx).runUnder u w
      (some r.1.1, { site := r.2, opened := d.opened.set number r.1.2 })

/-- While the campus systems behave as the site says, turns are those of the running site. -/
theorem turnUnder_steady (settings : Settings) (t : Turn) (d : Desk) :
    d.turnUnder (.steady d.site.campus d.site.delay) settings t =
      d.turnBy Cache.read settings t := by
  have hrun : ∀ {α : Type} (p : Program α),
      p.runUnder (.steady d.site.campus d.site.delay) (t.begin d.site) =
        p.runBy Cache.read (t.begin d.site) := fun p => by
    rw [Program.runBy_read]
    exact p.runUnder_steady (t.begin d.site)
  unfold turnUnder turnBy
  cases t.errand with
  | enter session => simp only [hrun]
  | within number operation => cases h : d.opened[number]? <;> simp only [hrun, h]

/-- Whose status feed a turn asks for, and in which view. -/
def asksFor? (d : Desk) (t : Turn) : Option (Uid × String) :=
  match t.errand with
  | .within number .statusFeed => do
    let ctx ← d.opened[number]?
    let uid ← ctx.auth.userId
    return (uid, viewKey ctx.auth)
  | _ => none

section

variable (u : Conduct) (settings : Settings) (uid : Uid) (view : String)

/-- What is seen in a turn of the status feed of the user in the view. -/
def sighting? (t : Turn) (d : Desk) : Option Sighting :=
  if d.asksFor? t = some (uid, view) then
    match d.turnUnder u settings t with
    | (some (.statusFeed (.ok feed)), after) =>
      feed.lastModified.map fun m => ⟨m.hash, m.timestamp, after.site.clock, t.wallClock⟩
    | _ => none
  else none

/-- The desk after one turn after another. -/
def after (ts : List Turn) (d : Desk) : Desk :=
  ts.foldl (fun d t => (d.turnUnder u settings t).2) d

/-- What is seen of the status feed of the user in the view while one turn after another is
taken. -/
def sightings : List Turn → Desk → List Sighting
  | [], _ => []
  | t :: ts, d =>
    (d.sighting? u settings uid view t).toList ++ sightings ts (d.turnUnder u settings t).2

end

section

variable {u : Conduct} {settings : Settings} {uid : Uid} {view : String} {t : Turn} {d : Desk}

theorem asksFor?_eq_some_iff :
    d.asksFor? t = some (uid, view) ↔ ∃ number ctx, t.errand = .within number .statusFeed ∧
      d.opened[number]? = some ctx ∧ ctx.auth.userId = some uid ∧ viewKey ctx.auth = view := by
  unfold asksFor?
  split
  · rename_i number herrand
    simp only [herrand, Option.bind_eq_bind, Option.bind_eq_some_iff, Option.pure_def,
      Option.some.injEq, Prod.mk.injEq]
    constructor
    · rintro ⟨ctx, hctx, _, huid, rfl, rfl⟩
      exact ⟨number, ctx, rfl, hctx, huid, rfl⟩
    · rintro ⟨_, ctx, hnumber, hctx, huid, rfl⟩
      obtain ⟨rfl, -⟩ := Errand.within.inj hnumber
      exact ⟨ctx, hctx, uid, huid, rfl, rfl⟩
  · rename_i hother
    exact ⟨fun h => (Option.some_ne_none _ h.symm).elim,
      fun ⟨number, ctx, herrand, _⟩ => (hother number herrand).elim⟩

theorem asksFor?_of_sighting? {s : Sighting} (h : d.sighting? u settings uid view t = some s) :
    d.asksFor? t = some (uid, view) := by
  unfold sighting? at h
  split at h
  · assumption
  · cases h

theorem after_append (ts ts' : List Turn) (d : Desk) :
    d.after u settings (ts ++ ts') = (d.after u settings ts).after u settings ts' :=
  List.foldl_append ..

theorem sightings_append (ts ts' : List Turn) (d : Desk) :
    d.sightings u settings uid view (ts ++ ts') = d.sightings u settings uid view ts ++
      (d.after u settings ts).sightings u settings uid view ts' := by
  induction ts generalizing d with
  | nil => rfl
  | cons t ts ih =>
    rw [List.cons_append, sightings, sightings, ih, List.append_assoc]
    rfl

end

end Desk

end CampusView
