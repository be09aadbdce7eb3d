import CampusView.Conduct
import CampusView.Pool

/-!
# The lobby

A `Lobby` is the site with everybody who came to it. A guest comes with a session, opens a request
and does operations within it, one after another. The actions of all guests come in any order, and
the campus systems behave in some way all the while.

The lobby remembers of every guest what was done so far of what the guest is at, as a list of
`Deed`s. So it can be told what a guest learned before an action.
-/

namespace CampusView

open Time

/-- An action that was made, with the site it was made on. -/
structure Deed where
  {α : Type}
  action : Action α
  site : Site

/-- What a guest is at: what was done of it, and what is left to do. -/
inductive Stage
  /-- Opening a request. -/
  | opening (past : List Deed) (rest : Program Context)
  /-- An operation within a request. -/
  | doing (ctx : Context) (operation : Operation) (past : List Deed)
      (rest : Program (Reply × Context))

namespace Stage

/-- The request of a guest who has nothing left to do. -/
def context? : Stage → Option Context
  | opening _ (.done ctx) => some ctx
  | doing _ _ _ (.done (_, ctx)) => some ctx
  | _ => none

/-- Make the next action, if one is left. -/
def step (u : Conduct) (w : Site) : Stage → Stage × Site
  | opening past (.act action next) =>
    (opening (past ++ [⟨action, w⟩]) (next (action.stepUnder u w).1), (action.stepUnder u w).2)
  | doing ctx operation past (.act action next) =>
    (doing ctx operation (past ++ [⟨action, w⟩]) (next (action.stepUnder u w).1),
      (action.stepUnder u w).2)
  | stage => (stage, w)

end Stage

/-- Somebody who came with a session. -/
structure Guest where
  session : SessionRecord
  stage : Stage

/-- The site with everybody who came to it. -/
structure Lobby where
  site : Site
  guests : List Guest := []

namespace Lobby

/-- What may happen next. -/
inductive Event
  /-- Somebody comes with a session. -/
  | arrive (session : SessionRecord)
  /-- A guest who has nothing left to do begins an operation. -/
  | begin (guest : Nat) (operation : Operation)
  /-- A guest makes the next action. -/
  | step (guest : Nat)
  /-- Time passes, and the clock on the wall shows something. -/
  | wait (elapsed : Nanos) (wallClock : Instant)

/-- Let something happen. -/
def next (settings : Settings) (u : Conduct) (lobby : Lobby) : Event → Lobby
  | .arrive session =>
    { lobby with
      guests := lobby.guests ++ [⟨session, .opening [] (authenticate settings session)⟩] }
  | .begin guest operation =>
    match lobby.guests[guest]? with
    | none => lobby
    | some g =>
      match g.stage.context? with
      | none => lobby
      | some ctx =>
        let stage := .doing ctx operation [] (operation.program settings ctx)
        { lobby with guests := lobby.guests.set guest { g with stage } }
  | .step guest =>
    match lobby.guests[guest]? with
    | none => lobby
    | some g =>
      let r := g.stage.step u lobby.site
      { site := r.2, guests := lobby.guests.set guest { g with stage := r.1 } }
  | .wait elapsed wallClock => { lobby with site := { lobby.site.wait elapsed with wallClock } }

/-- Let one thing happen after another. -/
def run (settings : Settings) (u : Conduct) (lobby : Lobby) (events : List Event) : Lobby :=
  events.foldl (next settings u) lobby

end Lobby

end CampusView
