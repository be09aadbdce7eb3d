import CampusView.Proofs.Interleaving
import CampusView.Proofs.KeptData

/-!
# The store in the log

A moment of the log has the store as it was then. `Recorded` says that the data of a user is at any
time what the last write of it left. Every action keeps it
(`Recorded.step`), so a moment after a write has the data of that write or of a later one
(`Recorded.data_after`).
-/

namespace CampusView

open Time

/-- The data is what the last write of the user's data up to some time left, if there was one. -/
def LastWritten (log : List Moment) (uid : Uid) (time : Nat) (data : Option UserData) : Prop :=
  ∀ m ∈ log, m.touch = .writesUser uid → m.time ≤ time →
    ∃ m' ∈ log, m'.touch = .writesUser uid ∧ m.time ≤ m'.time ∧ m'.time ≤ time ∧
      m'.store.data? uid = data

/-- Times lie within the log, and the data of a user changed by what was written of it. -/
structure Recorded (log : List Moment) (w : Site) : Prop where
  times : ∀ m ∈ log, m.time < log.length
  moments : ∀ m ∈ log, ∀ uid, LastWritten log uid m.time (m.store.data? uid)
  site : ∀ uid, LastWritten log uid log.length (w.store.data? uid)

/-- What was written before is the same when the log grows. -/
theorem LastWritten.noted {log : List Moment} {uid : Uid} {time : Nat} {data : Option UserData}
    (h : LastWritten log uid time data) (htime : time < log.length) (thread : Nat)
    (action : Action α) (w : Site) : LastWritten (noted log thread action w) uid time data := by
  intro m hm htouch hle
  have hm : m ∈ log := by
    rcases (mem_noted log thread action w).1 hm with hm | rfl
    · exact hm
    · rw [time_moment] at hle
      omega
  obtain ⟨m', hm', hlast⟩ := h m hm htouch hle
  exact ⟨m', (mem_noted log thread action w).2 (.inl hm'), hlast⟩

/-- An action that does not write the data of a user leaves what can be read of it. -/
theorem data?_step {action : Action α} {uid : Uid} (h : action.touch ≠ .writesUser uid) (w : Site) :
    (action.step w).2.store.data? uid = w.store.data? uid := by
  have hne : ∀ u, action.touch = .writesUser u → uid ≠ u := fun u hu heq => h (heq ▸ hu)
  cases action with
  | setName u name => exact Store.data?_put_of_ne (hne u rfl) _
  | recordLogin u at_ => exact Store.data?_put_of_ne (hne u rfl) _
  | deleteUser u => exact Store.data?_put_of_ne (hne u rfl) _
  | readClock =>
    obtain ⟨t, ht⟩ := step_readClock w
    rw [ht]
  | _ => rfl

namespace Recorded

variable {log : List Moment} {w : Site} {m m' : Moment}

theorem nil (w : Site) : Recorded [] w where
  times := by rintro _ ⟨⟩
  moments := by rintro _ ⟨⟩
  site := by rintro _ _ ⟨⟩

section

variable (thread : Nat) (action : Action α)

theorem times_noted (h : Recorded log w) :
    ∀ m ∈ noted log thread action w, m.time < (noted log thread action w).length := by
  intro m hm
  rw [length_noted]
  rcases (mem_noted log thread action w).1 hm with hm | rfl
  · have htime := h.times m hm
    omega
  · exact Nat.lt_succ_self _

/-- After an action the data is what the last write left, which may be that action. -/
theorem lastWritten_step (h : Recorded log w) (uid : Uid) {time : Nat} (htime : log.length ≤ time) :
    LastWritten (noted log thread action w) uid time ((action.step w).2.store.data? uid) := by
  intro m hm htouch hle
  by_cases hwrites : action.touch = .writesUser uid
  · -- the action is the last write itself
    refine ⟨_, moment_mem_noted log thread action w, hwrites, ?_, htime, rfl⟩
    rcases (mem_noted log thread action w).1 hm with hm | rfl
    · exact Nat.le_of_lt (h.times m hm)
    · exact Nat.le_refl _
  · rcases (mem_noted log thread action w).1 hm with hm | rfl
    · -- what was the last write stays the last
      obtain ⟨m', hm', htouch', hle', hlt', hdata⟩ :=
        h.site uid m hm htouch (Nat.le_of_lt (h.times m hm))
      refine ⟨m', (mem_noted log thread action w).2 (.inl hm'), htouch', hle', by omega, ?_⟩
      rw [data?_step hwrites, hdata]
    · exact absurd htouch hwrites

theorem step (h : Recorded log w) : Recorded (noted log thread action w) (action.step w).2 where
  times := h.times_noted thread action
  moments := by
    intro m hm uid
    rcases (mem_noted log thread action w).1 hm with hm | rfl
    · exact (h.moments m hm uid).noted (h.times m hm) thread action w
    · exact h.lastWritten_step thread action uid (Nat.le_refl _)
  site := by
    intro uid
    apply h.lastWritten_step thread action uid
    rw [length_noted]
    omega

end

theorem wait (h : Recorded log w) (n : Nanos) (t : Instant) :
    Recorded log { w.wait n with wallClock := t } :=
  ⟨h.times, h.moments, h.site⟩

/-- After a write the data is that of the write or of a later one. -/
theorem data_after (h : Recorded log w) {uid : Uid} (hm : m ∈ log)
    (htouch : m.touch = .writesUser uid) (hm' : m' ∈ log) (hle : m.time ≤ m'.time) :
    ∃ last ∈ log, last.touch = .writesUser uid ∧ m.time ≤ last.time ∧
      last.store.data? uid = m'.store.data? uid := by
  obtain ⟨last, hlast, htouch', hle', -, hdata⟩ := h.moments m' hm' uid m hm htouch hle
  exact ⟨last, hlast, htouch', hle', hdata⟩

end Recorded

end CampusView
