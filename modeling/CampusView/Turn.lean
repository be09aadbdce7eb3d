import CampusView.Operation
import CampusView.Uncached

/-!
# Turns

The service works for many people in turn. In a `Turn` some time has passed, the clock on the wall
shows something, and somebody opens a request or does something within one that is open. A `Desk`
is the site with the requests that were opened so far.

`Desk.runBy` takes turns where a given function reads the cache; `Desk.run` and `Desk.runUncached`
are the running site and the one whose cache never has anything.
-/

namespace CampusView

open Time

/-- What is done in a turn. -/
inductive Errand
  /-- Open a request. -/
  | enter (session : SessionRecord)
  /-- Do something within the request that was opened after `number` others. -/
  | within (number : Nat) (operation : Operation)

/-- A turn. -/
structure Turn where
  /-- How much time has passed on the monotonic clock. -/
  elapsed : Nanos
  /-- What the clock on the wall shows. -/
  wallClock : Instant
  errand : Errand

/-- The site, and the requests opened so far. -/
structure Desk where
  site : Site
  opened : List Context := []

/-- The site at the begin of a turn. -/
def Turn.begin (t : Turn) (w : Site) : Site := { w.wait t.elapsed with wallClock := t.wallClock }

namespace Desk

/-- Take a turn. There is no reply within a request that was not opened. -/
def turnBy (read : Cache.Reader) (settings : Settings) (t : Turn) (d : Desk) :
    Option Reply × Desk :=
  let w := t.begin d.site
  match t.errand with
  | .enter session =>
    let r := (authenticate settings session).runBy read w
    (some (.opened r.1.auth), { site := r.2, opened := d.opened ++ [r.1] })
  | .within number operation =>
    match d.opened[number]? with
    | none => (none, { d with site := w })
    | some ctx =>
      let r := (operation.program settings ctx).runBy read w
      (some r.1.1, { site := r.2, opened := d.opened.set number r.1.2 })

/-- Take one turn after another. -/
def runBy (read : Cache.Reader) (settings : Settings) :
    List Turn → Desk → List (Option Reply) × Desk
  | [], d => ([], d)
  | t :: ts, d =>
    let r := d.turnBy read settings t
    let rest := r.2.runBy read settings ts
    (r.1 :: rest.1, rest.2)

/-- Take turns on the running site. -/
def run (settings : Settings) (ts : List Turn) (d : Desk) : List (Option Reply) × Desk :=
  d.runBy Cache.read settings ts

/-- Take turns on a site whose cache never has anything. -/
def runUncached (settings : Settings) (ts : List Turn) (d : Desk) : List (Option Reply) × Desk :=
  d.runBy Cache.never settings ts

end Desk

end CampusView
