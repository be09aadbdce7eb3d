import CampusView.Proofs.CacheEntries
import CampusView.Proofs.KeySpace

/-!
# What is forgotten together

A `Slot` is a place of the cache: the status feed of a user in a view, the academics feed of a
user, whether a user is a held applicant, or the stamp of a feed. Each slot has a key of its own
(`Slot.key_injective`). When a user is forgotten, the slots of that user go, except for the stamps,
which go by themselves; of a cache with nothing but slots exactly these entries are removed
(`entry?_invalidate_slots`).
-/

namespace CampusView.Cache

open Time

/-- A place of the cache. -/
inductive Slot
  | status (uid : Uid) (view : String)
  | academics (uid : Uid)
  | admission (uid : Uid)
  | stamp (uid : Uid) (view : String)
deriving DecidableEq, Repr

namespace Slot

/-- The key of a slot. -/
def key : Slot → String
  | status uid view => Key.status uid view
  | academics uid => Key.academics uid
  | admission uid => Key.admission uid
  | stamp uid view => Key.stamp uid view

/-- Whom a slot belongs to. -/
def uid : Slot → Uid
  | status uid _ | academics uid | admission uid | stamp uid _ => uid

/-- The slot holds a stamp. -/
def isStamp : Slot → Bool
  | stamp _ _ => true
  | _ => false

/-! ### Keys as paths -/

/-- What comes before the user in the key of a slot. -/
def start (s : Slot) : String := if s.isStamp then "last-modified/" else "users/"

/-- What comes after the user in the key of a slot. -/
def rest : Slot → String
  | status _ view => "status/" ++ Key.segment view
  | academics _ => "academics"
  | admission _ => "auth-validation"
  | stamp _ view => Key.segment view

theorem key_eq (s : Slot) : s.key = s.start ++ Key.segment s.uid.text ++ "/" ++ s.rest := by
  cases s with
  | status uid view => exact Key.status_eq uid view
  | academics uid => exact Key.academics_eq uid
  | admission uid =>
    simp only [key, Key.admission, Key.user, String.append_assoc]
    rfl
  | stamp uid view => rfl

/-- The first character of a key tells whether it is a stamp's. -/
theorem users_ne_lastModified (a b : String) : "users/" ++ a ≠ "last-modified/" ++ b := by
  intro h
  have hlist := congrArg String.toList h
  rw [String.toList_append, String.toList_append] at hlist
  exact absurd (List.cons.inj hlist).1 (by decide)

/-- Texts that go on from the starts of two slots are different if only one of them is a stamp. -/
theorem isStamp_eq_of_append {s t : Slot} {a b : String} (h : s.start ++ a = t.start ++ b) :
    s.isStamp = t.isStamp := by
  cases hs : s.isStamp <;> cases ht : t.isStamp <;> simp only [start, hs, ht] at h
  · rfl
  · exact absurd h (users_ne_lastModified a b)
  · exact absurd h.symm (users_ne_lastModified b a)
  · rfl

/-- The part after the user tells the kind of a slot and its view. -/
theorem eq_of_rest {s t : Slot} (hstamp : s.isStamp = t.isStamp) (huid : s.uid = t.uid)
    (hrest : s.rest = t.rest) : s = t := by
  -- no view makes a status feed look like one of the other two kinds
  have hstatus : ∀ view name : String, name.toList.head? = some 'a' →
      "status/" ++ Key.segment view ≠ name := by
    rintro view name hname rfl
    rw [String.toList_append] at hname
    exact absurd hname (by simp)
  cases s <;> cases t <;> simp only [isStamp, reduceCtorEq] at hstamp <;>
    simp only [uid] at huid <;> subst huid <;> simp only [rest] at hrest
  · have hlist := congrArg String.toList hrest
    simp only [String.toList_append, List.append_cancel_left_eq] at hlist
    rw [Key.segment_injective (String.toList_inj.1 hlist)]
  · exact absurd hrest (hstatus _ _ (by decide))
  · exact absurd hrest (hstatus _ _ (by decide))
  · exact absurd hrest.symm (hstatus _ _ (by decide))
  · rfl
  · exact absurd hrest (by decide)
  · exact absurd hrest.symm (hstatus _ _ (by decide))
  · exact absurd hrest (by decide)
  · rfl
  · rw [Key.segment_injective hrest]

/-- Different slots have different keys. -/
theorem key_injective : Function.Injective key := by
  intro s t h
  rw [key_eq, key_eq] at h
  have hstamp : s.isStamp = t.isStamp := by
    simp only [String.append_assoc] at h
    exact isStamp_eq_of_append h
  have hstart : s.start = t.start := by rw [start, start, hstamp]
  rw [hstart] at h
  obtain ⟨htext, hrest⟩ := Key.path_inj h
  exact eq_of_rest hstamp (Key.uid_eq_of_text htext) hrest

/-! ### What lies below a user -/

/-- Below the segment of a user at the start of some slots lie these slots of that user. -/
theorem covers_key (r s : Slot) :
    covers (r.start ++ Key.segment r.uid.text) s.key = true ↔
      s.uid = r.uid ∧ s.isStamp = r.isStamp := by
  by_cases hstamp : r.isStamp = s.isStamp
  · have hstart : r.start = s.start := by rw [start, start, hstamp]
    rw [key_eq, hstart, covers_path, decide_eq_true_iff]
    exact ⟨fun huid => ⟨huid.symm, hstamp.symm⟩, fun h => h.1.symm⟩
  · -- the start of the other kind of slots is another text
    apply iff_of_false
    · intro hcovers
      rw [key_eq] at hcovers
      rcases (covers_iff _ _).1 hcovers with h | ⟨more, h⟩
      · rw [String.append_assoc, String.append_assoc] at h
        exact hstamp (isStamp_eq_of_append h).symm
      · simp only [String.append_assoc] at h
        exact hstamp (isStamp_eq_of_append h).symm
    · exact fun h => hstamp h.2.symm

/-- With a user everything that is cached of that user goes, except for the stamps. -/
theorem covers_user (u : Uid) (s : Slot) :
    covers (Key.user u) s.key = true ↔ s.uid = u ∧ s.isStamp = false :=
  covers_key (academics u) s

/-- With the stamps of a user nothing else goes. -/
theorem covers_stamps (u : Uid) (s : Slot) :
    covers (Key.stamps u) s.key = true ↔ s.uid = u ∧ s.isStamp = true :=
  covers_key (stamp u "") s

/-- The slots of a user that hold no stamp. -/
theorem exists_notStamp_iff (u : Uid) (key : String) :
    (∃ s : Slot, s.key = key ∧ s.uid = u ∧ s.isStamp = false) ↔
      (∃ view, key = Key.status u view) ∨ key = Key.academics u ∨ key = Key.admission u := by
  constructor
  · rintro ⟨s, rfl, rfl, hstamp⟩
    cases s with
    | status u view => exact .inl ⟨view, rfl⟩
    | academics u => exact .inr (.inl rfl)
    | admission u => exact .inr (.inr rfl)
    | stamp u view => cases hstamp
  · rintro (⟨view, rfl⟩ | rfl | rfl)
    · exact ⟨status u view, rfl, rfl, rfl⟩
    · exact ⟨academics u, rfl, rfl, rfl⟩
    · exact ⟨admission u, rfl, rfl, rfl⟩

/-- The stamps of a user. -/
theorem exists_stamp_iff (u : Uid) (key : String) :
    (∃ s : Slot, s.key = key ∧ s.uid = u ∧ s.isStamp = true) ↔ ∃ view, key = Key.stamp u view := by
  constructor
  · rintro ⟨s, rfl, rfl, hstamp⟩
    cases s with
    | status u view => cases hstamp
    | academics u => cases hstamp
    | admission u => cases hstamp
    | stamp u view => exact ⟨view, rfl⟩
  · rintro ⟨view, rfl⟩
    exact ⟨stamp u view, rfl, rfl, rfl⟩

end Slot

/-! ### What is left -/

/-- An entry is left after an invalidation if it does not lie below what is forgotten. -/
theorem entry?_invalidate (c : Cache) (root key : String) (e : CacheEntry) :
    entry? (c.invalidate root) key = some e ↔ c.entry? key = some e ∧ ¬ covers root key = true := by
  rw [invalidate]
  by_cases h : covers root key = true
  · simp [h]
  · simp [h]

/-- Of a cache that holds nothing but slots, the slots below what is forgotten go. -/
theorem Holds.entry?_invalidate {c : Cache} (hc : c.Holds fun key _ => ∃ s : Slot, s.key = key)
    {root : String} {p : Slot → Prop} (hroot : ∀ s : Slot, covers root s.key = true ↔ p s)
    (key : String) (e : CacheEntry) :
    entry? (c.invalidate root) key = some e ↔
      c.entry? key = some e ∧ ¬∃ s : Slot, s.key = key ∧ p s := by
  rw [Cache.entry?_invalidate]
  constructor
  · rintro ⟨he, hkey⟩
    refine ⟨he, ?_⟩
    rintro ⟨s, rfl, hs⟩
    exact hkey ((hroot s).2 hs)
  · rintro ⟨he, hkey⟩
    refine ⟨he, fun hcovers => ?_⟩
    obtain ⟨s, rfl⟩ := hc key e he
    exact hkey ⟨s, rfl, (hroot s).1 hcovers⟩

/-- **Exactly the entries of a user are forgotten.** Slots have different keys. Of a cache that
holds nothing but slots, forgetting a user removes the status feeds of that user in every view, the
academics feed and whether the user is held, forgetting the stamps of a user removes these, and
what is kept of others stays. -/
theorem entry?_invalidate_slots {c : Cache} (hc : c.Holds fun key _ => ∃ s : Slot, s.key = key)
    (u : Uid) :
    Function.Injective Slot.key ∧
      (∀ key e, entry? (c.invalidate (Key.user u)) key = some e ↔ c.entry? key = some e ∧
        ¬((∃ view, key = Key.status u view) ∨ key = Key.academics u ∨ key = Key.admission u)) ∧
      (∀ key e, entry? (c.invalidate (Key.stamps u)) key = some e ↔ c.entry? key = some e ∧
        ¬∃ view, key = Key.stamp u view) ∧
      ∀ s : Slot, s.uid ≠ u →
        entry? (c.invalidate (Key.user u)) s.key = c.entry? s.key ∧
          entry? (c.invalidate (Key.stamps u)) s.key = c.entry? s.key := by
  refine ⟨Slot.key_injective, ?_, ?_, ?_⟩
  · intro key e
    rw [← Slot.exists_notStamp_iff]
    exact hc.entry?_invalidate (Slot.covers_user u) key e
  · intro key e
    rw [← Slot.exists_stamp_iff]
    exact hc.entry?_invalidate (Slot.covers_stamps u) key e
  · intro s hs
    constructor
    · apply if_neg
      exact fun h => hs ((Slot.covers_user u s).1 h).1
    · apply if_neg
      exact fun h => hs ((Slot.covers_stamps u s).1 h).1

/-- A cache with entries of users whose ids look like paths of each other. -/
def lookalikes : Cache :=
  ((((∅ : Cache).write 0 (Key.academics ⟨"a"⟩) "1" 9).write 0 (Key.status ⟨"a/b"⟩ "") "2" 9).write 0
    (Key.status ⟨"a"⟩ "b/status/") "3" 9).write 0 (Key.stamp ⟨"a"⟩ "%2F") "4" 9

/-- Of these, two are forgotten with the first user, and one with the stamps. -/
theorem entry?_invalidate_lookalikes :
    (lookalikes.Holds fun key _ => ∃ s : Slot, s.key = key) ∧
      entry? (lookalikes.invalidate (Key.user ⟨"a"⟩)) (Key.status ⟨"a"⟩ "b/status/") = none ∧
      entry? (lookalikes.invalidate (Key.user ⟨"a"⟩)) (Key.status ⟨"a/b"⟩ "") = some ⟨"2", 9⟩ ∧
      entry? (lookalikes.invalidate (Key.user ⟨"a"⟩)) (Key.stamp ⟨"a"⟩ "%2F") = some ⟨"4", 9⟩ := by
  have hslots : lookalikes.Holds fun key _ => ∃ s : Slot, s.key = key :=
    (((holds_empty.write ⟨.academics _, rfl⟩ 0 9).write ⟨.status _ _, rfl⟩ 0 9).write
      ⟨.status _ _, rfl⟩ 0 9).write ⟨.stamp _ _, rfl⟩ 0 9
  obtain ⟨-, huser, -, hothers⟩ := entry?_invalidate_slots hslots ⟨"a"⟩
  refine ⟨hslots, ?_, ?_, ?_⟩
  · rw [Option.eq_none_iff_forall_ne_some]
    intro e he
    exact ((huser _ e).1 he).2 (.inl ⟨_, rfl⟩)
  · have hstays := (hothers (.status ⟨"a/b"⟩ "") (by decide)).1
    exact hstays.trans (by decide)
  · refine (huser _ _).2 ⟨by decide, ?_⟩
    rw [← Slot.exists_notStamp_iff]
    rintro ⟨s, hkey, -, hstamp⟩
    rw [Slot.key_injective (hkey.trans (show _ = (Slot.stamp ⟨"a"⟩ "%2F").key from rfl))] at hstamp
    cases hstamp

end CampusView.Cache
