import CampusView.Conduct
import CampusView.Proofs.Footprints
import CampusView.Proofs.Forgetting

/-!
# Keys that a program spares

A program spares a key of the cache if it neither writes under the key nor forgets it. Whatever the
campus systems do in between, later readers of the key find after the program what they would have
found before (`Program.Confined.read`). What is done within a request spares the stamp of a feed,
unless it is a request for that feed or deletes the user (`spares_stamp_program`).
-/

namespace CampusView

open Time

/-- What is touched is not the entry under the key. -/
def Touch.Spares (key : String) : Touch → Prop
  | writesCache k => k ≠ key
  | invalidates root => Cache.covers root key = false
  | _ => True

/-! ### What is left to readers -/

/-- Time does not run back. -/
theorem Action.clock_le_stepUnder (u : Conduct) (action : Action α) (w : Site) :
    w.clock ≤ (action.stepUnder u w).2.clock := by
  cases action with
  | inquire limit q => exact Nat.le_add_right _ _
  | readClock =>
    obtain ⟨t, ht⟩ := step_readClock w
    show w.clock ≤ (Action.readClock.step w).2.clock
    exact ht ▸ Nat.le_refl w.clock
  | _ => exact Nat.le_refl _

theorem Program.clock_le_runUnder (u : Conduct) (p : Program α) (w : Site) :
    w.clock ≤ (p.runUnder u w).2.clock := by
  induction p generalizing w with
  | done a => exact Nat.le_refl _
  | act action next ih => exact Nat.le_trans (action.clock_le_stepUnder u w) (ih _ _)

section

variable {key : String}

/-- An action that spares a key leaves it to later readers. -/
theorem Action.read_stepUnder {action : Action α}
    (h : action.touch.isChange = true → action.touch.Spares key) (u : Conduct) (w : Site)
    (t : Nanos) (ht : (action.stepUnder u w).2.clock ≤ t) :
    (action.stepUnder u w).2.cache.read t key = w.cache.read t key := by
  cases action with
  | writeCache k text ttl =>
    exact (Cache.read_write _ _ _ _ _ _ _ ht).trans (if_neg (Ne.symm (h rfl)))
  | invalidate root =>
    exact (Cache.read_invalidate _ _ _ _).trans (if_neg (Bool.eq_false_iff.1 (h rfl)))
  | readClock =>
    obtain ⟨t', ht'⟩ := step_readClock w
    show (Action.readClock.step w).2.cache.read t key = _
    rw [ht']
  | _ => rfl

/-- A program that spares a key leaves it to later readers. -/
theorem Program.Confined.read {p : Program α} {Q : α → Prop} (h : p.Confined (Touch.Spares key) Q)
    (u : Conduct) (w : Site) :
    w.clock ≤ (p.runUnder u w).2.clock ∧ ∀ t, (p.runUnder u w).2.clock ≤ t →
      (p.runUnder u w).2.cache.read t key = w.cache.read t key := by
  refine ⟨p.clock_le_runUnder u w, ?_⟩
  induction p generalizing w with
  | done a => exact fun _ _ => rfl
  | act action next ih =>
    intro t ht
    have hclock := (next (action.stepUnder u w).1).clock_le_runUnder u (action.stepUnder u w).2
    rw [Program.runUnder, ih _ (h.2 _) (action.stepUnder u w).2 t ht]
    exact action.read_stepUnder h.1 u w t (Nat.le_trans hclock ht)

end

/-! ### The stamp of a feed -/

section

variable {settings : Settings} {ctx : Context} {uid : Uid} {view : String}

open Cache (Slot)

/-- Another slot has another key than a stamp. -/
theorem key_ne_stamp {s : Slot} (h : s ≠ .stamp uid view) : s.key ≠ Cache.Key.stamp uid view :=
  fun hkey => h (Slot.key_injective hkey)

theorem covers_user_stamp (u : Uid) :
    Cache.covers (Cache.Key.user u) (Cache.Key.stamp uid view) = false :=
  Bool.eq_false_iff.2 fun h => nomatch ((Slot.covers_user u (.stamp uid view)).1 h).2

theorem covers_stamps_stamp {u : Uid} (h : uid ≠ u) :
    Cache.covers (Cache.Key.stamps u) (Cache.Key.stamp uid view) = false :=
  Bool.eq_false_iff.2 fun hcovers => h ((Slot.covers_stamps u (.stamp uid view)).1 hcovers).1

/-- To open a request leaves all stamps. -/
theorem spares_stamp_authenticate (session : SessionRecord) :
    (authenticate settings session).Confined (Touch.Spares (Cache.Key.stamp uid view))
      fun ctx => ctx.auth.Of session :=
  confined_authenticate settings (fun u => key_ne_stamp (s := .admission u) nofun) session

/-- A feed that is composed or found leaves all stamps. -/
theorem spares_stamp_currentFeed (u : Uid) :
    (currentFeed settings ctx u).Confined (Touch.Spares (Cache.Key.stamp uid view))
      fun r => r.2.auth = ctx.auth :=
  confined_currentFeed settings ctx (key_ne_stamp (s := .status u _) nofun)

/-- A request leaves a stamp, unless it is for the feed of that stamp or deletes the user. -/
theorem spares_stamp_program {operation : Operation}
    (hfeed : ¬(operation = .statusFeed ∧ ctx.auth.userId = some uid ∧ viewKey ctx.auth = view))
    (hdelete : operation ≠ .deleteUser uid) :
    (operation.program settings ctx).Confined (Touch.Spares (Cache.Key.stamp uid view))
      fun _ => True := by
  cases operation with
  | statusFeed =>
    refine (confined_statusFeed settings ctx fun u hu => ?_).bind fun r _ => trivial
    refine ⟨key_ne_stamp (s := .status u _) nofun, key_ne_stamp (s := .stamp u _) fun h => ?_⟩
    obtain ⟨rfl, hview⟩ := Slot.stamp.inj h
    exact hfeed ⟨rfl, hu, hview⟩
  | academicsFeed =>
    exact (confined_academicsFeed settings ctx fun u => key_ne_stamp (s := .academics u) nofun).bind
      fun r _ => trivial
  | delegateStudents =>
    exact (confined_delegateStudents settings ctx.auth).bind fun r _ => trivial
  | setPreferredName value =>
    exact (confined_setPreferredName (fun u => ⟨trivial, covers_user_stamp u⟩) value).bind
      fun r _ => trivial
  | recordFirstLogin =>
    exact (confined_recordFirstLogin fun u => ⟨trivial, covers_user_stamp u⟩).bind fun r _ =>
      trivial
  | deleteUser target =>
    have htarget : uid ≠ target := fun h => hdelete (h ▸ rfl)
    exact (confined_deleteUser settings trivial (covers_user_stamp target)
      (covers_stamps_stamp htarget) ctx.auth).bind fun r _ => trivial

end

end CampusView
