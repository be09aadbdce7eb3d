import CampusView.Json.Value
import Mathlib.Data.String.Basic

/-!
# Members of objects

Members are looked up by name, left out by name (`Members.without`), or put in the order of their
names (`Members.ofList`). Members in order are given by what is found under each name
(`Members.Sorted.ext`), and so are the members in order that a list stands for.
-/

namespace CampusView.Json.Members

variable {k name : String} {v : Value} {names : List String} {ms : Members}

/-! ### Looking up -/

theorem lookup_cons (k : String) (m : String × Value) (ms : Members) :
    List.lookup k (m :: ms) = if k = m.1 then some m.2 else ms.lookup k := by
  obtain ⟨n, v⟩ := m
  by_cases h : k = n
  · simp [h]
  · simp [List.lookup_cons, h, beq_false_of_ne h]

theorem mem_of_lookup (h : ms.lookup k = some v) : (k, v) ∈ ms := by
  obtain ⟨l₁, l₂, rfl, -⟩ := List.lookup_eq_some_iff.1 h
  simp

theorem lookup_eq_none (h : ∀ m ∈ ms, k ≠ m.1) : ms.lookup k = none := by
  induction ms with
  | nil => rfl
  | cons m ms ih =>
    rw [lookup_cons, if_neg (h m List.mem_cons_self)]
    exact ih fun m' hm' => h m' (List.mem_cons_of_mem _ hm')

/-- Among members of different names the last one of a name is the only one. -/
theorem lookup_reverse (h : (ms.map Prod.fst).Nodup) : ms.reverse.lookup k = ms.lookup k := by
  induction ms with
  | nil => rfl
  | cons m ms ih =>
    obtain ⟨hm, hrest⟩ := List.nodup_cons.1 h
    rw [List.reverse_cons, List.lookup_append, ih hrest, lookup_cons, lookup_cons]
    split_ifs with hk
    · have hnone : ms.lookup k = none := lookup_eq_none fun m' hm' heq =>
        hm (hk ▸ heq ▸ List.mem_map_of_mem hm')
      rw [hnone]
      rfl
    · rw [List.lookup_nil, Option.or_none]

/-- Of members that are read from fields, each under a key of its own, the value of a field is found
under its key. -/
theorem lookup_filterMap {α : Type} (read : α → Option Value) {fields : List (α × String)}
    (hnodup : (fields.map Prod.snd).Nodup) {f : α × String} (hf : f ∈ fields) :
    List.lookup f.2 (fields.filterMap fun f => (read f.1).map fun v => (f.2, v)) = read f.1 := by
  induction fields with
  | nil => cases hf
  | cons g fields ih =>
    obtain ⟨hg, hnodup⟩ := List.nodup_cons.1 hnodup
    rcases List.mem_cons.1 hf with rfl | hf
    · cases hv : read f.1 with
      | none =>
        rw [List.filterMap_cons_none (by rw [hv]; rfl)]
        apply lookup_eq_none
        intro m hm hkey
        obtain ⟨f', hf', hm⟩ := List.mem_filterMap.1 hm
        obtain ⟨v, -, rfl⟩ := Option.map_eq_some_iff.1 hm
        exact hg (hkey ▸ List.mem_map_of_mem hf')
      | some v =>
        rw [List.filterMap_cons_some (by rw [hv]; rfl), lookup_cons, if_pos rfl]
    · have hne : f.2 ≠ g.2 := fun h => hg (h ▸ List.mem_map_of_mem hf)
      cases hv : read g.1 with
      | none => rw [List.filterMap_cons_none (by rw [hv]; rfl), ih hnodup hf]
      | some v =>
        rw [List.filterMap_cons_some (by rw [hv]; rfl), lookup_cons, if_neg hne, ih hnodup hf]

/-! ### Leaving out -/

theorem lookup_without (k : String) (names : List String) (ms : Members) :
    (without names ms).lookup k = if k ∈ names then none else ms.lookup k := by
  induction ms with
  | nil => simp [without]
  | cons m ms ih =>
    rw [without, List.filter_cons, ← without, lookup_cons]
    by_cases hk : k = m.1
    · subst hk
      by_cases hm : m.1 ∈ names <;> simp [hm, ih, lookup_cons]
    · by_cases hm : m.1 ∈ names <;> simp [hm, ih, hk, lookup_cons]

/-- What is left out anyway may be left out before. -/
theorem without_without {more : List String} (h : more ⊆ names) :
    without names (without more ms) = without names ms := by
  unfold without
  rw [List.filter_filter]
  refine List.filter_congr fun m _ => ?_
  by_cases hm : m.1 ∈ more
  · simp [h hm]
  · simp [hm]

theorem without_eq_self (h : ∀ m ∈ ms, m.1 ∉ names) : without names ms = ms :=
  List.filter_eq_self.2 fun m hm => by simpa using h m hm

theorem mem_of_mem_without {m : String × Value} (h : m ∈ without names ms) : m ∈ ms :=
  (List.mem_filter.1 h).1

theorem not_mem_of_mem_without {m : String × Value} (h : m ∈ without names ms) : m.1 ∉ names := by
  simpa using (List.mem_filter.1 h).2

@[simp] theorem without_append (ms' : Members) :
    without names (ms ++ ms') = without names ms ++ without names ms' :=
  List.filter_append ..

@[simp] theorem without_nil : without names [] = [] := rfl

theorem without_reverse : without names ms.reverse = (without names ms).reverse :=
  List.filter_reverse ..

/-! ### Order -/

/-- The members are in the order of their names, each name once. -/
def Sorted (ms : Members) : Prop := ms.Pairwise fun a b => a.1 < b.1

theorem sorted_without (h : Sorted ms) : Sorted (without names ms) := h.filter _

theorem mem_insert {m : String × Value} (h : m ∈ insert k v ms) : m = (k, v) ∨ m ∈ ms := by
  induction ms with
  | nil => exact .inl (List.mem_singleton.1 h)
  | cons a ms ih =>
    obtain ⟨k', v'⟩ := a
    rw [insert] at h
    split_ifs at h with hlt heq
    · exact List.mem_cons.1 h
    · rcases List.mem_cons.1 h with hm | hm
      · exact .inl hm
      · exact .inr (List.mem_cons_of_mem _ hm)
    · rcases List.mem_cons.1 h with hm | hm
      · exact .inr (hm ▸ List.mem_cons_self)
      · exact (ih hm).imp_right (List.mem_cons_of_mem _)

theorem Sorted.insert (h : Sorted ms) : Sorted (insert k v ms) := by
  induction ms with
  | nil => exact List.pairwise_singleton _ _
  | cons a ms ih =>
    obtain ⟨k', v'⟩ := a
    obtain ⟨hfirst, hrest⟩ := List.pairwise_cons.1 h
    rw [Members.insert]
    split_ifs with hlt heq
    · refine List.pairwise_cons.2 ⟨fun m hm => ?_, h⟩
      rcases List.mem_cons.1 hm with rfl | hm
      · exact hlt
      · exact hlt.trans (hfirst m hm)
    · subst heq
      exact List.pairwise_cons.2 ⟨hfirst, hrest⟩
    · refine List.pairwise_cons.2 ⟨fun m hm => ?_, ih hrest⟩
      rcases mem_insert hm with rfl | hm
      · exact lt_of_le_of_ne (not_lt.1 hlt) (Ne.symm heq)
      · exact hfirst m hm

theorem lookup_insert (k' : String) (ms : Members) :
    (insert k v ms).lookup k' = if k' = k then some v else ms.lookup k' := by
  induction ms with
  | nil => rw [insert, lookup_cons]
  | cons a ms ih =>
    obtain ⟨n, w⟩ := a
    rw [insert]
    split_ifs with hlt heq hk hk
    all_goals simp only [lookup_cons, ih]
    all_goals grind

/-- The members in order hold the last one of each name. -/
theorem lookup_ofList (k : String) (ms : Members) :
    (ofList ms).lookup k = ms.reverse.lookup k := by
  suffices h : ∀ acc : Members, (ms.foldl (fun acc m => insert m.1 m.2 acc) acc).lookup k =
      (ms.reverse ++ acc).lookup k by
    have hall := h []
    rwa [List.append_nil] at hall
  intro acc
  induction ms generalizing acc with
  | nil => rfl
  | cons m ms ih =>
    rw [List.foldl_cons, ih, List.reverse_cons, List.append_assoc, List.lookup_append,
      List.lookup_append, lookup_insert, List.singleton_append, lookup_cons]

theorem sorted_ofList (ms : Members) : Sorted (ofList ms) := by
  suffices h : ∀ acc : Members, Sorted acc →
      Sorted (ms.foldl (fun acc m => insert m.1 m.2 acc) acc) from h [] List.Pairwise.nil
  intro acc hacc
  induction ms generalizing acc with
  | nil => exact hacc
  | cons m ms ih => exact ih _ hacc.insert

theorem mem_ofList {m : String × Value} (h : m ∈ ofList ms) : m ∈ ms := by
  suffices hall : ∀ acc : Members, m ∈ ms.foldl (fun acc m => insert m.1 m.2 acc) acc →
      m ∈ ms ∨ m ∈ acc from (hall [] h).resolve_right List.not_mem_nil
  clear h
  intro acc hm
  induction ms generalizing acc with
  | nil => exact .inr hm
  | cons a ms ih =>
    rcases ih _ hm with h | h
    · exact .inl (List.mem_cons_of_mem _ h)
    · rcases mem_insert h with rfl | h
      · exact .inl List.mem_cons_self
      · exact .inr h

theorem Sorted.nodup (h : Sorted ms) : (ms.map Prod.fst).Nodup :=
  List.pairwise_map.2 (h.imp fun hab => hab.ne)

/-- Members in order that hold the same under each name are the same. -/
theorem Sorted.ext {ms' : Members} (h : Sorted ms) (h' : Sorted ms')
    (heq : ∀ k, ms.lookup k = ms'.lookup k) : ms = ms' := by
  induction ms generalizing ms' with
  | nil =>
    cases ms' with
    | nil => rfl
    | cons b ms' =>
      have hfound := heq b.1
      rw [lookup_cons, if_pos rfl] at hfound
      cases hfound
  | cons a ms ih =>
    cases ms' with
    | nil =>
      have hfound := heq a.1
      rw [lookup_cons, if_pos rfl] at hfound
      cases hfound
    | cons b ms' =>
      obtain ⟨ha, hms⟩ := List.pairwise_cons.1 h
      obtain ⟨hb, hms'⟩ := List.pairwise_cons.1 h'
      -- the least name of one is a name of the other, so neither is below the other
      have hle : b.1 ≤ a.1 := by
        have hfound := heq a.1
        rw [lookup_cons, if_pos rfl] at hfound
        rcases List.mem_cons.1 (mem_of_lookup hfound.symm) with hm | hm
        · exact (congrArg Prod.fst hm).ge
        · exact (hb _ hm).le
      have hge : a.1 ≤ b.1 := by
        have hfound := heq b.1
        rw [lookup_cons b.1 b, if_pos rfl] at hfound
        rcases List.mem_cons.1 (mem_of_lookup hfound) with hm | hm
        · exact (congrArg Prod.fst hm).ge
        · exact (ha _ hm).le
      have hname : a.1 = b.1 := le_antisymm hge hle
      have hvalue : a.2 = b.2 := by
        have hfound := heq a.1
        rw [lookup_cons, lookup_cons, if_pos rfl, if_pos hname] at hfound
        exact Option.some.inj hfound
      have hrest : ms = ms' := by
        refine ih hms hms' fun k => ?_
        have hfound := heq k
        rw [lookup_cons, lookup_cons] at hfound
        by_cases hk : k = a.1
        · rw [lookup_eq_none fun m hm => (hk ▸ ha m hm : k < m.1).ne,
            lookup_eq_none fun m hm => (hk ▸ hname ▸ hb m hm : k < m.1).ne]
        · rwa [if_neg hk, if_neg (hname ▸ hk)] at hfound
      rw [hrest, Prod.ext hname hvalue]

/-- Members in order stay as they are. -/
theorem ofList_eq_self (h : Sorted ms) : ofList ms = ms :=
  (sorted_ofList ms).ext h fun k => by rw [lookup_ofList, lookup_reverse h.nodup]

/-- Members are left out before or after they are put in order. -/
theorem without_ofList : without names (ofList ms) = ofList (without names ms) :=
  (sorted_without (sorted_ofList ms)).ext (sorted_ofList _) fun k => by
    rw [lookup_without, lookup_ofList, lookup_ofList, ← without_reverse, lookup_without]

end CampusView.Json.Members
