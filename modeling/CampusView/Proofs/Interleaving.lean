import CampusView.Pool
import Mathlib.Data.List.Basic

/-!
# Reasoning about requests at the same time

`Program.Safe` says of a request that, whatever others do between its actions, each action of its
own keeps an invariant of the log and the site, and that a condition on its reply and the log holds
when it ends and ever after. It is proved along the program of one request (`Safe.bind`), and
requests that are all safe keep the invariant together in every order of their actions
(`Pool.safe_run`).
-/

namespace CampusView

open Time

/-- The log grew by later moments. -/
structure Grown (log log' : List Moment) : Prop where
  keeps : ∀ m ∈ log, m ∈ log'
  later : ∀ m ∈ log', m ∈ log ∨ log.length ≤ m.time
  longer : log.length ≤ log'.length

namespace Grown

variable {log log' log'' : List Moment}

theorem refl (log : List Moment) : Grown log log :=
  ⟨fun _ h => h, fun _ h => .inl h, Nat.le_refl _⟩

theorem trans (h : Grown log log') (h' : Grown log' log'') : Grown log log'' where
  keeps := fun m hm => h'.keeps m (h.keeps m hm)
  later := by
    intro m hm
    have hlonger := h.longer
    rcases h'.later m hm with hm | hm
    · exact h.later m hm
    · right
      omega
  longer := Nat.le_trans h.longer h'.longer

end Grown

/-- The moment that is added to a log for an action. -/
def moment (log : List Moment) (thread : Nat) (action : Action α) (w : Site) : Moment :=
  ⟨log.length, thread, action.touch, (action.step w).2.store⟩

section

variable (log : List Moment) (thread : Nat) (action : Action α) (w : Site)

@[simp] theorem time_moment : (moment log thread action w).time = log.length := rfl

theorem mem_noted {m : Moment} :
    m ∈ noted log thread action w ↔ m ∈ log ∨ m = moment log thread action w := by
  rw [noted, List.mem_append, List.mem_singleton]
  rfl

theorem moment_mem_noted : moment log thread action w ∈ noted log thread action w :=
  (mem_noted log thread action w).2 (.inr rfl)

theorem length_noted : (noted log thread action w).length = log.length + 1 :=
  List.length_append ..

theorem grown_noted : Grown log (noted log thread action w) where
  keeps := fun m hm => (mem_noted log thread action w).2 (.inl hm)
  later := by
    intro m hm
    rcases (mem_noted log thread action w).1 hm with hm | rfl
    · exact .inl hm
    · exact .inr (Nat.le_refl _)
  longer := by
    rw [length_noted]
    omega

end

/-- The log grew, but not by actions of the given request. -/
structure Later (thread : Nat) (log log' : List Moment) : Prop where
  grown : Grown log log'
  others : ∀ m ∈ log', m.thread = thread → m ∈ log

namespace Later

variable {thread : Nat} {log log' log'' : List Moment}

theorem refl (thread : Nat) (log : List Moment) : Later thread log log :=
  ⟨.refl log, fun _ h _ => h⟩

theorem trans (h : Later thread log log') (h' : Later thread log' log'') :
    Later thread log log'' :=
  ⟨h.grown.trans h'.grown, fun m hm hthread => h.others m (h'.others m hm hthread) hthread⟩

/-- Another request made an action. -/
theorem noted {other : Nat} (hne : other ≠ thread) (log : List Moment) (action : Action α)
    (w : Site) : Later thread log (noted log other action w) := by
  refine ⟨grown_noted log other action w, fun m hm hthread => ?_⟩
  rcases (mem_noted log other action w).1 hm with hm | rfl
  · exact hm
  · exact absurd hthread hne

end Later

namespace Pool

theorem run_append (p : Pool) (before after : List Event) :
    p.run (before ++ after) = (p.run before).run after :=
  List.foldl_append

theorem grown_next (p : Pool) (event : Event) : Grown p.log (p.next event).log := by
  cases event with
  | wait elapsed wallClock => exact .refl p.log
  | step thread =>
    simp only [next]
    split
    · exact grown_noted ..
    · exact .refl p.log

theorem grown_run (p : Pool) (events : List Event) : Grown p.log (p.run events).log := by
  induction events generalizing p with
  | nil => exact .refl p.log
  | cons event events ih => exact (p.grown_next event).trans (ih (p.next event))

end Pool

/-! ### Safe requests -/

namespace Program

variable (G : List Moment → Site → Prop) (thread : Nat)

/-- Every action of the rest of a request keeps `G`, and `Q` holds of what it ends in. Others may
make actions before each of its own and after its end. -/
def Safe (Q : α → List Moment → Prop) : Program α → List Moment → Prop
  | done a, log => ∀ log', Later thread log log' → Q a log'
  | act action next, log => ∀ log' w, Later thread log log' → G log' w →
    G (noted log' thread action w) (action.step w).2 ∧
      (next (action.step w).1).Safe Q (noted log' thread action w)

variable {G thread} {Q : α → List Moment → Prop} {log log' : List Moment}

/-- A request stays safe when others make actions. -/
theorem Safe.later {p : Program α} (h : p.Safe G thread Q log) (hlater : Later thread log log') :
    p.Safe G thread Q log' := by
  cases p with
  | done a => exact fun log'' h' => h log'' (hlater.trans h')
  | act action next => exact fun log'' w h' hG => h log'' w (hlater.trans h') hG

theorem Safe.mono {p : Program α} {R : α → List Moment → Prop} (h : p.Safe G thread Q log)
    (hQ : ∀ a log, Q a log → R a log) : p.Safe G thread R log := by
  induction p generalizing log with
  | done a => exact fun log' hlater => hQ a log' (h log' hlater)
  | act action next ih =>
    intro log' w hlater hG
    obtain ⟨hG', hnext⟩ := h log' w hlater hG
    exact ⟨hG', ih _ hnext⟩

/-- One program after another. -/
theorem Safe.bind {p : Program α} {f : α → Program β} {R : β → List Moment → Prop}
    (h : p.Safe G thread Q log) (hf : ∀ a log, Q a log → (f a).Safe G thread R log) :
    (p >>= f).Safe G thread R log := by
  induction p generalizing log with
  | done a => exact hf a log (h log (.refl thread log))
  | act action next ih =>
    intro log' w hlater hG
    obtain ⟨hG', hnext⟩ := h log' w hlater hG
    exact ⟨hG', ih _ hnext⟩

/-- What holds of every later log holds at the end. -/
theorem Safe.frame {p : Program α} {R : List Moment → Prop} (h : p.Safe G thread Q log) (hR : R log)
    (hgrown : ∀ log log', Grown log log' → R log → R log') :
    p.Safe G thread (fun a log => Q a log ∧ R log) log := by
  induction p generalizing log with
  | done a => exact fun log' hlater => ⟨h log' hlater, hgrown log log' hlater.grown hR⟩
  | act action next ih =>
    intro log' w hlater hG
    obtain ⟨hG', hnext⟩ := h log' w hlater hG
    exact ⟨hG', ih _ hnext (hgrown _ _ (hlater.grown.trans (grown_noted log' thread action w)) hR)⟩

end Program

/-! ### Safe pools -/

/-- The invariant holds, and every request is safe. -/
structure Pool.Safe (G : List Moment → Site → Prop) (Q : Nat → Reply × Context → List Moment → Prop)
    (p : Pool) : Prop where
  invariant : G p.log p.site
  threads : ∀ (i : Nat) (program : Program (Reply × Context)), p.threads[i]? = some program →
    program.Safe G i (Q i) p.log

section

variable {G : List Moment → Site → Prop} {Q : Nat → Reply × Context → List Moment → Prop} {p : Pool}

theorem Pool.Safe.next (h : p.Safe G Q)
    (hwait : ∀ log w n t, G log w → G log { w.wait n with wallClock := t }) (event : Event) :
    (p.next event).Safe G Q := by
  cases event with
  | wait elapsed wallClock => exact ⟨hwait _ _ _ _ h.invariant, h.threads⟩
  | step thread =>
    cases hthread : p.threads[thread]? with
    | none =>
      simp only [Pool.next, hthread]
      exact h
    | some program =>
      cases program with
      | done reply =>
        simp only [Pool.next, hthread]
        exact h
      | act action rest =>
        obtain ⟨hG, hrest⟩ := h.threads thread _ hthread p.log p.site (.refl _ _) h.invariant
        simp only [Pool.next, hthread]
        -- the request that moved goes on, and the others see the log grow
        refine ⟨hG, fun i program hi => ?_⟩
        by_cases hne : thread = i
        · subst hne
          rw [List.getElem?_set_self (List.getElem?_eq_some_iff.1 hthread).1] at hi
          obtain rfl := Option.some.inj hi
          exact hrest
        · rw [List.getElem?_set_ne hne] at hi
          exact (h.threads i program hi).later (.noted hne _ _ _)

/-- Safe requests keep the invariant in every order of their actions. -/
theorem Pool.Safe.run (h : p.Safe G Q)
    (hwait : ∀ log w n t, G log w → G log { w.wait n with wallClock := t }) (events : List Event) :
    (p.run events).Safe G Q := by
  induction events generalizing p with
  | nil => exact h
  | cons event events ih => exact ih (h.next hwait event)

/-- What a request that has ended was answered. -/
theorem Pool.Safe.answered (h : p.Safe G Q) {i : Nat} {reply : Reply × Context}
    (hi : p.threads[i]? = some (.done reply)) : Q i reply p.log :=
  h.threads i _ hi p.log (.refl i p.log)

end

end CampusView
