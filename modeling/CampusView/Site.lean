import CampusView.Program

/-!
# The running site

`Site` is the state of the running site: its cache and store, the campus systems and how long each
of them takes, and the clocks. `Action.step` is what one action does to it, and `Program.run` runs
a program with nothing in between.

The monotonic clock moves while campus systems are asked. The clock on the wall is apart from it,
and moves on with every reading.
-/

namespace CampusView

open Time

/-- The state of the running site. -/
structure Site where
  /-- The monotonic clock. -/
  clock : Nanos := 0
  /-- The clock on the wall. -/
  wallClock : Instant
  cache : Cache := ∅
  store : Store := ∅
  campus : Campus := ∅
  /-- How long a campus system takes to answer. -/
  delay : System → Nanos := fun _ => 0
  /-- The calls made so far. -/
  calls : List Call := []

namespace Site

/-- A site with nothing kept where no system takes any time. -/
def prompt (campus : Campus) : Site where
  wallClock := ⟨⟨1970, 1, 1, by decide⟩, ⟨0, 0, by decide⟩⟩
  campus := campus

/-- Let time pass. -/
def wait (w : Site) (n : Nanos) : Site := { w with clock := w.clock + n }

/-- Change the store. -/
def onStore (w : Site) (change : Store → α × Store) : α × Site :=
  ((change w.store).1, { w with store := (change w.store).2 })

/-- Ask campus systems. -/
def inquire (w : Site) (limit : Nanos) (q : Inquiry α) : α × Site :=
  (q.answer (w.campus.within limit w.delay),
    { w with
      clock := w.clock + q.duration limit fun _ => w.delay
      calls := w.calls ++ q.calls })

end Site

/-- What an action gives, and the site after it. -/
def Action.step : Action α → Site → α × Site
  | readCache key, w => (w.cache.read w.clock key, w)
  | writeCache key value ttl, w => ((), { w with cache := w.cache.write w.clock key value ttl })
  | invalidate root, w => ((), { w with cache := w.cache.invalidate root })
  | readUser uid, w => (w.store.get uid, w)
  | setName uid name, w => w.onStore fun s => s.setName uid name
  | recordLogin uid instant, w => w.onStore fun s => s.recordLogin uid instant
  | deleteUser uid, w => w.onStore fun s => s.delete uid
  | inquire limit q, w => w.inquire limit q
  | readClock, w => (w.wallClock, { w with wallClock := w.wallClock.tick 1000 })

/-- Reading the clock only moves it on. -/
theorem step_readClock (w : Site) :
    ∃ t, Action.readClock.step w = (w.wallClock, { w with wallClock := t }) := ⟨_, rfl⟩

namespace Program

/-- Run a program with nothing in between. -/
def run : Program α → Site → α × Site
  | done a, w => (a, w)
  | act action next, w => (next (action.step w).1).run (action.step w).2

@[simp] theorem run_pure (a : α) (w : Site) : (pure a : Program α).run w = (a, w) := rfl

@[simp] theorem run_perform (action : Action α) (w : Site) :
    (perform action).run w = action.step w := rfl

@[simp] theorem run_bind (p : Program α) (f : α → Program β) (w : Site) :
    (p >>= f).run w = (f (p.run w).1).run (p.run w).2 := by
  induction p generalizing w with
  | done a => rfl
  | act action next ih => exact ih (action.step w).1 (action.step w).2

end Program

end CampusView
