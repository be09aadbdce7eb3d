import CampusView.Operation
import CampusView.Site

/-!
# Requests at the same time

A `Pool` is the site with several requests under way. An `Event` lets one of them make its next
atomic action, or lets time pass, so a list of events is one order in which the actions of all
requests may come. A pool keeps a log: a `Moment` says which request made an action, what the action
touched, and how the store was then.
-/

namespace CampusView

open Time

/-- What an action touches. -/
inductive Touch
  | readsCache (key : String)
  | writesCache (key : String)
  | invalidates (root : String)
  | readsUser (uid : Uid)
  | writesUser (uid : Uid)
  | inquires
  | readsClock
deriving DecidableEq, Repr

/-- What an action touches. -/
def Action.touch : Action α → Touch
  | readCache key => .readsCache key
  | writeCache key _ _ => .writesCache key
  | invalidate root => .invalidates root
  | readUser uid => .readsUser uid
  | setName uid _ => .writesUser uid
  | recordLogin uid _ => .writesUser uid
  | deleteUser uid => .writesUser uid
  | inquire _ _ => .inquires
  | readClock => .readsClock

/-- An action that was made. -/
structure Moment where
  /-- How many actions were made before. -/
  time : Nat
  /-- The request that made it. -/
  thread : Nat
  touch : Touch
  /-- The store after it. -/
  store : Store

/-- The site with requests under way. -/
structure Pool where
  site : Site
  /-- What is left to do for each request. -/
  threads : List (Program (Reply × Context))
  /-- The actions that were made, in order. -/
  log : List Moment := []

/-- What may happen next. -/
inductive Event
  /-- A request makes its next action. -/
  | step (thread : Nat)
  /-- Time passes, and the clock on the wall shows something. -/
  | wait (elapsed : Nanos) (wallClock : Instant)

/-- The log after an action on a site. -/
def noted (log : List Moment) (thread : Nat) (action : Action α) (w : Site) : List Moment :=
  log ++ [⟨log.length, thread, action.touch, (action.step w).2.store⟩]

namespace Pool

/-- Requests for these operations, none of which has begun. -/
def start (settings : Settings) (requests : List (Authentication × Operation)) (w : Site) :
    Pool where
  site := w
  threads := requests.map fun r => r.2.program settings { auth := r.1 }

/-- Let something happen. A request that has ended does nothing. -/
def next (p : Pool) : Event → Pool
  | .wait elapsed wallClock => { p with site := { p.site.wait elapsed with wallClock } }
  | .step thread =>
    match p.threads[thread]? with
    | some (.act action rest) =>
      { site := (action.step p.site).2
        threads := p.threads.set thread (rest (action.step p.site).1)
        log := noted p.log thread action p.site }
    | _ => p

/-- Let one thing happen after another. -/
def run (p : Pool) (events : List Event) : Pool := events.foldl next p

end Pool

end CampusView
