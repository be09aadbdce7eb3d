import CampusView.Cache.Key
import CampusView.Uncached

/-!
# What the cache holds

`Cache.Holds P c` says of every text in the cache, expired or not, that `P` holds of its key and
the text. It holds of a cache from its first entry on if it holds of everything that is written
(`Holds.write`), and an invalidation leaves what is kept under other keys (`Holds.invalidate`). A
reader is truthful if it gives nothing but what the cache holds.
-/

namespace CampusView

open Time

namespace Cache

/-- Everything in the cache, expired or not, is as `P` says. -/
def Holds (P : String → String → Prop) (c : Cache) : Prop :=
  ∀ key e, c.entry? key = some e → P key e.value

/-- The reader gives nothing but what the cache holds. -/
def Truthful (read : Reader) : Prop :=
  ∀ c now key text, read c now key = some text → ∃ e, c.entry? key = some e ∧ e.value = text

theorem truthful_read : Truthful Cache.read := by
  intro c now key text h
  obtain ⟨e, he, rfl⟩ := Option.map_eq_some_iff.1 h
  exact ⟨e, (Option.filter_eq_some_iff.1 he).1, rfl⟩

theorem truthful_never : Truthful never := fun _ _ _ _ h => nomatch h

section

variable {P Q : String → String → Prop} {c : Cache}

theorem holds_empty : (∅ : Cache).Holds P := fun _ _ h => nomatch h

theorem Holds.mono (h : c.Holds P) (hPQ : ∀ key text, P key text → Q key text) : c.Holds Q :=
  fun key e he => hPQ key e.value (h key e he)

theorem Holds.write (h : c.Holds P) {key text : String} (hP : P key text) (now ttl : Nanos) :
    (c.write now key text ttl).Holds P := by
  intro k e he
  by_cases hk : k = key
  · simp only [Cache.write, if_pos hk] at he
    obtain rfl := Option.some.inj he
    exact hk ▸ hP
  · simp only [Cache.write, if_neg hk] at he
    exact h k e (Option.filter_eq_some_iff.1 he).1

/-- After an invalidation everything lies elsewhere. -/
theorem Holds.invalidate (h : c.Holds P) (root : String) :
    (c.invalidate root).Holds fun key text => covers root key = false ∧ P key text := by
  intro k e he
  obtain ⟨hk, he⟩ := Option.ite_none_left_eq_some.1 he
  exact ⟨Bool.eq_false_iff.2 hk, h k e he⟩

theorem Holds.of_read (h : c.Holds P) {read : Reader} (hread : Truthful read) {now : Nanos}
    {key text : String} (htext : read c now key = some text) : P key text := by
  obtain ⟨e, he, rfl⟩ := hread c now key text htext
  exact h key e he

end

end Cache

end CampusView
