import CampusView.Site

/-!
# Other ways to read the cache

`Program.runBy` runs a program with nothing in between where a given function reads the cache.
`Cache.read` gives the running site (`Program.runBy_read`), and `Cache.never` the site whose cache
never has anything.
-/

namespace CampusView

open Time

/-- A way to read the cache at some time. -/
abbrev Cache.Reader := Cache → Nanos → String → Option String

/-- A cache that never has anything. -/
def Cache.never : Cache.Reader := fun _ _ _ => none

/-- What an action gives, and the site after it, where `read` reads the cache. -/
def Action.stepBy (read : Cache.Reader) : Action α → Site → α × Site
  | readCache key, w => (read w.cache w.clock key, w)
  | action, w => action.step w

theorem Action.stepBy_read (action : Action α) (w : Site) :
    action.stepBy Cache.read w = action.step w := by
  cases action <;> simp only [stepBy, step]

namespace Program

/-- Run a program with nothing in between, where `read` reads the cache. -/
def runBy (read : Cache.Reader) : Program α → Site → α × Site
  | done a, w => (a, w)
  | act action next, w => (next (action.stepBy read w).1).runBy read (action.stepBy read w).2

section

variable (read : Cache.Reader)

@[simp] theorem runBy_pure (a : α) (w : Site) : (pure a : Program α).runBy read w = (a, w) := rfl

@[simp] theorem runBy_perform (action : Action α) (w : Site) :
    (perform action).runBy read w = action.stepBy read w := rfl

@[simp] theorem runBy_bind (p : Program α) (f : α → Program β) (w : Site) :
    (p >>= f).runBy read w = (f (p.runBy read w).1).runBy read (p.runBy read w).2 := by
  induction p generalizing w with
  | done a => rfl
  | act action next ih => exact ih (action.stepBy read w).1 (action.stepBy read w).2

end

/-- The running site reads its cache. -/
theorem runBy_read (p : Program α) (w : Site) : p.runBy Cache.read w = p.run w := by
  induction p generalizing w with
  | done a => rfl
  | act action next ih => rw [runBy, Action.stepBy_read, ih, run]

end Program

end CampusView
