import CampusView.Cache.History
import CampusView.Proofs.KeySpace
import Mathlib.Data.List.Induction

/-!
# The cache and the history of its accesses

What a reader is given can be told from the accesses before it (`Kept`), though the cache forgets
some of them: an access makes of both what the next reader is to find (`Tracks.step`), so a sequence
of accesses does (`tracks_afterBy`). This holds of every writer that sets one key for later readers
and leaves the others (`Writer.Sets`), whether it drops what has expired or not, so no reader can
tell the two apart (`answer_iff_kept`).
-/

namespace CampusView.Cache

open Time

/-! ### Paths -/

/-- A key is forgotten with itself and with its ancestors. -/
theorem covers_iff_isAncestor (root key : String) :
    covers root key = true ↔ root = key ∨ Key.IsAncestor root key := by
  have hpath : covers root key = true ↔ Key.segments root <+: Key.segments key := by
    rw [covers_iff, Key.segments, Key.segments, Text.splitOn_prefix_iff]
    refine or_congr String.toList_inj.symm ⟨?_, ?_⟩
    · rintro ⟨rest, rfl⟩
      exact ⟨rest.toList, by simp [String.toList_append]⟩
    · rintro ⟨rest, hrest⟩
      exact ⟨String.ofList rest, String.toList_inj.1 (by simp [String.toList_append, hrest])⟩
  rw [hpath, Key.IsAncestor]
  constructor
  · exact fun h => (eq_or_ne root key).imp_right fun hne => ⟨h, hne⟩
  · rintro (rfl | ⟨h, -⟩)
    · exact List.prefix_rfl
    · exact h

/-! ### Writers -/

/-- What `write` makes of later reads: one key is set, and the others are left. -/
def Writer.Sets (write : Writer) : Prop :=
  ∀ (c : Cache) (now later : Nanos) (k key value : String) (ttl : Nanos), now ≤ later →
    (write c now key value ttl).read later k =
      if k = key then (if later < now + ttl then some value else none) else c.read later k

theorem sets_write : Writer.Sets Cache.write := fun c now later k key value ttl =>
  read_write c now later k key value ttl

theorem sets_put : Writer.Sets put := by
  intro c now later k key value ttl _
  by_cases hk : k = key
  · by_cases hl : later < now + ttl <;> simp [read, put, hk, hl, CacheEntry.isLive, Option.filter]
  · simp [read, put, hk]

/-! ### What is kept after an access -/

section

variable {past : List TimedAccess} {a : TimedAccess} {now : Nanos} {key value : String}

theorem not_kept_nil : ¬Kept [] now key value := by
  rintro ⟨before, written, ttl, after, h, -⟩
  exact absurd h.symm (List.append_ne_nil_of_right_ne_nil _ (List.cons_ne_nil _ _))

/-- What is kept was written by the last access, or kept before it and not replaced by it. -/
theorem kept_append_iff :
    Kept (past ++ [a]) now key value ↔
      (∃ ttl, a.access = .write key value ttl ∧ now < a.clock + ttl) ∨
        (Kept past now key value ∧ ¬a.access.Replaces key) := by
  constructor
  · rintro ⟨before, written, ttl, after, h, hlive, hafter⟩
    rcases List.eq_nil_or_concat' after with rfl | ⟨after, last, rfl⟩
    · obtain ⟨-, ha⟩ := List.append_inj' h rfl
      obtain rfl := List.singleton_inj.1 ha
      exact .inl ⟨ttl, rfl, hlive⟩
    · rw [← List.cons_append, ← List.append_assoc] at h
      obtain ⟨rfl, ha⟩ := List.append_inj' h rfl
      obtain rfl := List.singleton_inj.1 ha
      rw [List.forall_mem_append, List.forall_mem_singleton] at hafter
      exact .inr ⟨⟨before, written, ttl, after, rfl, hlive, hafter.1⟩, hafter.2⟩
  · rintro (⟨ttl, ha, hlive⟩ | ⟨⟨before, written, ttl, after, rfl, hlive, hafter⟩, hlast⟩)
    · refine ⟨past, a.clock, ttl, [], ?_, hlive, fun _ h => nomatch h⟩
      rw [← ha]
    · refine ⟨before, written, ttl, after ++ [a], by simp, hlive, fun b hb => ?_⟩
      rcases List.mem_append.1 hb with hb | hb
      · exact hafter b hb
      · exact List.mem_singleton.1 hb ▸ hlast

end

/-! ### The cache after a sequence of accesses -/

/-- From `now` on readers are given what the history says. -/
def Tracks (past : List TimedAccess) (c : Cache) (now : Nanos) : Prop :=
  ∀ later key value, now ≤ later → (c.read later key = some value ↔ Kept past later key value)

section

variable {write : Writer} {past accesses : List TimedAccess} {c : Cache} {a : TimedAccess}
  {now later : Nanos}

theorem Tracks.mono (h : Tracks past c now) (hle : now ≤ later) : Tracks past c later :=
  fun _ key value hlater => h _ key value (Nat.le_trans hle hlater)

theorem tracks_nil (now : Nanos) : Tracks [] ∅ now := by
  intro later key value _
  rw [read_empty]
  exact ⟨fun h => absurd h (Option.some_ne_none value).symm, fun h => absurd h not_kept_nil⟩

/-- An access leaves readers what the longer history says. -/
theorem Tracks.step (hwrite : write.Sets) (h : Tracks past c a.clock) :
    Tracks (past ++ [a]) (a.stepBy write c) a.clock := by
  obtain ⟨clock, access⟩ := a
  intro later key value hlater
  rw [kept_append_iff, ← h later key value hlater]
  cases access with
  | read k => simp [TimedAccess.stepBy, Access.Replaces]
  | write k v ttl =>
    simp only [TimedAccess.stepBy, Access.Replaces, hwrite c clock later key k v ttl hlater,
      Access.write.injEq]
    by_cases hk : key = k
    · subst hk
      by_cases hlive : later < clock + ttl <;> simp [hlive]
    · simp [hk, Ne.symm hk]
  | invalidate root =>
    simp only [TimedAccess.stepBy, Access.Replaces, read_invalidate,
      ← covers_iff_isAncestor root key]
    cases covers root key <;> simp

/-- Readers are given what the history says, whichever way is taken to write. -/
theorem tracks_afterBy (hwrite : write.Sets) (horder : InOrder accesses)
    (hnow : ∀ a ∈ accesses, a.clock ≤ now) : Tracks accesses (afterBy write accesses) now := by
  induction accesses using List.reverseRecOn generalizing now with
  | nil => exact tracks_nil now
  | append_singleton past a ih =>
    obtain ⟨hpast, -, hbefore⟩ := List.pairwise_append.1 horder
    have hpast := ih hpast fun b hb => hbefore b hb a List.mem_cons_self
    rw [afterBy, List.foldl_append]
    exact (hpast.step hwrite).mono (hnow a (List.mem_append_right _ List.mem_cons_self))

end

/-- What an access is answered is told by the cache after the accesses before it. -/
theorem getElem?_answersBy (write : Writer) (c : Cache) (accesses : List TimedAccess) (i : Nat) :
    (answersBy write c accesses)[i]? = accesses[i]?.map
      (TimedAccess.answer ((accesses.take i).foldl (TimedAccess.stepBy write) c)) := by
  induction accesses generalizing c i with
  | nil => rfl
  | cons a rest ih =>
    cases i with
    | zero => rfl
    | succ i => exact ih (a.stepBy write c) i

section

variable {write write' : Writer} {accesses : List TimedAccess} {i : Nat}

/-- A reader is given exactly what is kept according to the accesses before it. -/
theorem answersBy_read_iff (hwrite : write.Sets) (horder : InOrder accesses) {now : Nanos}
    {key : String} (hread : accesses[i]? = some ⟨now, .read key⟩) :
    ∃ answer, (answersBy write ∅ accesses)[i]? = some answer ∧
      ∀ value, answer = some value ↔ Kept (accesses.take i) now key value := by
  refine ⟨_, by rw [getElem?_answersBy, hread]; rfl, fun value => ?_⟩
  obtain ⟨hi, hget⟩ := List.getElem?_eq_some_iff.1 hread
  have hbefore : ∀ a ∈ accesses.take i, a.clock ≤ now := by
    intro a ha
    obtain ⟨j, hj, rfl⟩ := List.mem_take_iff_getElem.1 ha
    have hle := List.pairwise_iff_getElem.1 horder j i (by omega) hi (by omega)
    rwa [hget] at hle
  exact tracks_afterBy hwrite (horder.sublist (List.take_sublist _ _)) hbefore now key value
    (Nat.le_refl _)

/-- No access can tell two such writers apart. -/
theorem answersBy_congr (hwrite : write.Sets) (hwrite' : write'.Sets) (horder : InOrder accesses) :
    answersBy write ∅ accesses = answersBy write' ∅ accesses := by
  refine List.ext_getElem? fun i => ?_
  cases ha : accesses[i]? with
  | none => rw [getElem?_answersBy, getElem?_answersBy, ha]; rfl
  | some a =>
    obtain ⟨now, access⟩ := a
    cases access with
    | read key =>
      obtain ⟨answer, hanswer, hkept⟩ := answersBy_read_iff hwrite horder ha
      obtain ⟨answer', hanswer', hkept'⟩ := answersBy_read_iff hwrite' horder ha
      rw [hanswer, hanswer', Option.ext fun value => (hkept value).trans (hkept' value).symm]
    | write key value ttl => rw [getElem?_answersBy, getElem?_answersBy, ha]; rfl
    | invalidate root => rw [getElem?_answersBy, getElem?_answersBy, ha]; rfl

end

/-- **The cache implements timed paths.** While the clock does not run back, a reader of a key is
given a text exactly if the last write of the key wrote it, its time lasts, and neither the key nor
an ancestor of it was forgotten since. That a write drops what has expired is never noticed: all
answers are those of a cache whose writes leave the other entries alone. -/
theorem answers_of_history {accesses : List TimedAccess} (horder : InOrder accesses) :
    (∀ i now key, accesses[i]? = some ⟨now, .read key⟩ →
        ∃ answer, (answers accesses)[i]? = some answer ∧
          ∀ value, answer = some value ↔ Kept (accesses.take i) now key value) ∧
      answers accesses = answersBy put ∅ accesses :=
  ⟨fun _ _ _ => answersBy_read_iff sets_write horder, answersBy_congr sets_write sets_put horder⟩

/-- A feed that is written again for a shorter time, then dropped as expired by the write of
another key, and a page that is forgotten with its user. -/
def feedAndPage : List TimedAccess := [
  ⟨0, .write "users/1/status/self" "long" 10⟩,
  ⟨1, .write "users/1/status/self" "short" 2⟩,
  ⟨2, .read "users/1/status/self"⟩,
  ⟨3, .write "users/12/academics" "page" 0⟩,
  ⟨3, .read "users/1/status/self"⟩,
  ⟨3, .write "users/12/academics" "page" 5⟩,
  ⟨4, .invalidate "users/1"⟩,
  ⟨5, .read "users/12/academics"⟩,
  ⟨6, .invalidate "users/12"⟩,
  ⟨6, .read "users/12/academics"⟩]

/-- The shorter time counts, and it ends when the clock reads its end. The key of another user is no
ancestor, though it begins the same. -/
theorem answers_of_history_feedAndPage :
    InOrder feedAndPage ∧
      Kept (feedAndPage.take 2) 2 "users/1/status/self" "short" ∧
      (∀ value, ¬Kept (feedAndPage.take 4) 3 "users/1/status/self" value) ∧
      Kept (feedAndPage.take 7) 5 "users/12/academics" "page" ∧
      ∀ value, ¬Kept (feedAndPage.take 9) 6 "users/12/academics" value := by
  have horder : InOrder feedAndPage := by
    unfold InOrder
    decide
  have hanswers : answers feedAndPage =
      [none, none, some "short", none, none, none, none, some "page", none, none] := by
    decide +kernel
  obtain ⟨hkept, -⟩ := answers_of_history horder
  rw [hanswers] at hkept
  refine ⟨horder, ?_, ?_, ?_, ?_⟩
  · obtain ⟨answer, hanswer, hiff⟩ := hkept 2 2 "users/1/status/self" rfl
    exact (hiff "short").1 (Option.some.inj hanswer).symm
  · obtain ⟨answer, hanswer, hiff⟩ := hkept 4 3 "users/1/status/self" rfl
    obtain rfl := Option.some.inj hanswer
    exact fun value hvalue => nomatch (hiff value).2 hvalue
  · obtain ⟨answer, hanswer, hiff⟩ := hkept 7 5 "users/12/academics" rfl
    exact (hiff "page").1 (Option.some.inj hanswer).symm
  · obtain ⟨answer, hanswer, hiff⟩ := hkept 9 6 "users/12/academics" rfl
    obtain rfl := Option.some.inj hanswer
    exact fun value hvalue => nomatch (hiff value).2 hvalue

end CampusView.Cache
