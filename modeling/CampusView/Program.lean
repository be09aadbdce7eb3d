import CampusView.Cache
import CampusView.Inquiry
import CampusView.Store

/-!
# Programs

What the site does for a request is a `Program`: a tree of atomic actions on the cache, the store,
the campus systems and the clock, where each action may depend on what the ones before it gave.
Every program ends.

A program says nothing about what happens between its actions, so programs can be run one after
another (`Program.run` in `CampusView.Site`) as well as interleaved.
-/

namespace CampusView

open Time

/-- One atomic step of the site, with the type of what it gives. -/
inductive Action : Type → Type 1
  /-- Read the cache. -/
  | readCache (key : String) : Action (Option String)
  /-- Keep a text in the cache. -/
  | writeCache (key value : String) (ttl : Nanos) : Action Unit
  /-- Forget a key of the cache and every key below it. -/
  | invalidate (root : String) : Action Unit
  /-- Read the data kept of a user. -/
  | readUser (uid : Uid) : Action (Except StoreFault (Option UserData))
  /-- Set the preferred name of a user, or clear it. -/
  | setName (uid : Uid) (name : Option String) : Action (Except StoreFault UserData)
  /-- Keep the instant of a login, unless one is kept already. -/
  | recordLogin (uid : Uid) (instant : Instant) : Action (Except StoreFault UserData)
  /-- Delete the data kept of a user. -/
  | deleteUser (uid : Uid) : Action Bool
  /-- Ask campus systems, each call under a time limit. -/
  | inquire {α : Type} (limit : Nanos) (inquiry : Inquiry α) : Action α
  /-- Read the clock on the wall. -/
  | readClock : Action Instant

/-- A tree of actions that ends in a value. -/
inductive Program (α : Type) : Type 1
  | done (a : α)
  | act {β : Type} (action : Action β) (next : β → Program α)

namespace Program

/-- Go on with another program. -/
def bind : Program α → (α → Program β) → Program β
  | done a, f => f a
  | act action next, f => act action fun b => (next b).bind f

instance : Monad Program where
  pure := done
  bind := bind

/-- One action. -/
def perform (action : Action α) : Program α := act action done

@[simp] theorem pure_bind' (a : α) (f : α → Program β) : (pure a : Program α) >>= f = f a := rfl

@[simp] theorem act_bind (action : Action β) (next : β → Program α) (f : α → Program γ) :
    act action next >>= f = act action fun b => next b >>= f := rfl

@[simp] theorem perform_bind (action : Action α) (f : α → Program β) :
    perform action >>= f = act action f := rfl

theorem bind_pure' (p : Program α) : p >>= pure = p := by
  induction p with
  | done a => rfl
  | act action next ih => exact congrArg (act action) (funext ih)

theorem bind_assoc' (p : Program α) (f : α → Program β) (g : β → Program γ) :
    p >>= f >>= g = p >>= fun a => f a >>= g := by
  induction p with
  | done a => rfl
  | act action next ih => exact congrArg (act action) (funext ih)

instance : LawfulMonad Program :=
  LawfulMonad.mk' _ (fun p => bind_pure' p) (fun _ _ => rfl) bind_assoc'

end Program

end CampusView
