import CampusView.Site

/-!
# How the campus systems behave

A `Site` has campus systems that always answer the same. A `Conduct` says how they behave when they
change: what each call of the site comes back with, and after how long, where the calls are counted
from the start of the site. So a system may fail in one call and answer in the next, also within
one inquiry.

`Program.runUnder` runs a program with nothing in between while the campus systems behave in this
way. Where their behaviour is steady, this is `Program.run` (`runUnder_steady`).
-/

namespace CampusView

open Time

/-- How the campus systems behave. -/
structure Conduct where
  /-- What call `n` of the site is answered with. -/
  campus : Nat → Campus
  /-- How long a system takes for call `n` of the site. -/
  delay : Nat → System → Nanos

namespace Conduct

/-- The campus systems always behave the same. -/
def steady (campus : Campus) (delay : System → Nanos) : Conduct := ⟨fun _ => campus, fun _ => delay⟩

/-- The campus systems know nobody and take no time. -/
def silent : Conduct := .steady ∅ fun _ => 0

/-- What call `n` of the site comes back with under a time limit. -/
def answers (u : Conduct) (limit : Nanos) (n : Nat) : Campus :=
  (u.campus n).within limit (u.delay n)

end Conduct

/-- What the next calls of the site come back with. -/
def Site.meets (w : Site) (u : Conduct) (limit : Nanos) : Nat → Campus := fun n =>
  u.answers limit (w.calls.length + n)

/-- Ask campus systems that behave in some way. -/
def Site.inquireUnder (w : Site) (u : Conduct) (limit : Nanos) (q : Inquiry α) : α × Site :=
  (q.outcome (w.meets u limit),
    { w with
      clock := w.clock + q.duration limit fun n => u.delay (w.calls.length + n)
      calls := w.calls ++ q.calls })

/-- No call changes nothing. -/
theorem Site.inquireUnder_pure (w : Site) (u : Conduct) (limit : Nanos) (a : α) :
    w.inquireUnder u limit (pure a) = (a, w) := by
  simp [inquireUnder, Inquiry.duration]

theorem Site.inquireUnder_steady (w : Site) (limit : Nanos) (q : Inquiry α) :
    w.inquireUnder (.steady w.campus w.delay) limit q = w.inquire limit q := rfl

/-- No action changes how the campus systems behave. -/
theorem Action.step_systems (action : Action α) (w : Site) :
    (action.step w).2.campus = w.campus ∧ (action.step w).2.delay = w.delay := by
  cases action with
  | readClock =>
    obtain ⟨t, ht⟩ := step_readClock w
    rw [ht]
    exact ⟨rfl, rfl⟩
  | _ => exact ⟨rfl, rfl⟩

/-- What an action gives, and the site after it, while the campus systems behave in some way. -/
def Action.stepUnder (u : Conduct) : Action α → Site → α × Site
  | inquire limit q, w => w.inquireUnder u limit q
  | action, w => action.step w

namespace Program

/-- Run a program with nothing in between while the campus systems behave in some way. -/
def runUnder (u : Conduct) : Program α → Site → α × Site
  | done a, w => (a, w)
  | act action next, w => (next (action.stepUnder u w).1).runUnder u (action.stepUnder u w).2

section

variable (u : Conduct)

@[simp] theorem runUnder_pure (a : α) (w : Site) :
    (pure a : Program α).runUnder u w = (a, w) := rfl

@[simp] theorem runUnder_perform (action : Action α) (w : Site) :
    (perform action).runUnder u w = action.stepUnder u w := rfl

@[simp] theorem runUnder_bind (p : Program α) (f : α → Program β) (w : Site) :
    (p >>= f).runUnder u w = (f (p.runUnder u w).1).runUnder u (p.runUnder u w).2 := by
  induction p generalizing w with
  | done a => rfl
  | act action next ih => exact ih (action.stepUnder u w).1 (action.stepUnder u w).2

@[simp] theorem runUnder_map (f : α → β) (p : Program α) (w : Site) :
    (f <$> p).runUnder u w = (f (p.runUnder u w).1, (p.runUnder u w).2) := by
  rw [map_eq_pure_bind, runUnder_bind, runUnder_pure]

end

/-- While the campus systems behave as the site says, programs run as on the site. -/
theorem runUnder_steady (p : Program α) (w : Site) :
    p.runUnder (.steady w.campus w.delay) w = p.run w := by
  induction p generalizing w with
  | done a => rfl
  | act action next ih =>
    have hstep : action.stepUnder (.steady w.campus w.delay) w = action.step w := by
      cases action <;> simp only [Action.stepUnder, Action.step, Site.inquireUnder_steady]
    obtain ⟨hcampus, hdelay⟩ := action.step_systems w
    have hnext := ih (action.step w).1 (action.step w).2
    rw [hcampus, hdelay] at hnext
    rw [runUnder, hstep, hnext, run]

end Program

end CampusView
