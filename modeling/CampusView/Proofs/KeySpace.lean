import CampusView.Cache
import CampusView.Cache.Key
import Mathlib.Data.List.Basic

/-!
# The space of cache keys

Keys of different kinds, users or views are different, since a segment holds no slash
(`slash_not_mem_segment`) and tells its text (`segment_injective`). What is forgotten with a user
are the keys under the key of that user and no others (`covers_user_path`, `covers_user_status`).
-/

namespace CampusView.Cache

namespace Key

/-! ### Segments -/

theorem slash_not_mem_escape (c : Char) : '/' ∉ escape c := by
  unfold escape
  split_ifs with h₁ h₂
  · decide
  · decide
  · simpa using Ne.symm h₂

theorem escape_cases (c : Char) :
    (c = '%' ∧ escape c = ['%', '2', '5']) ∨ (c = '/' ∧ escape c = ['%', '2', 'F']) ∨
      (c ≠ '%' ∧ escape c = [c]) := by
  unfold escape
  split_ifs with h₁ h₂ <;> simp [*]

/-- The start of an escaped text tells its first character. -/
theorem escape_append_inj {c d : Char} {cs ds : List Char} (h : escape c ++ cs = escape d ++ ds) :
    c = d ∧ cs = ds := by
  rcases escape_cases c with ⟨rfl, hc⟩ | ⟨rfl, hc⟩ | ⟨hne, hc⟩ <;>
    rcases escape_cases d with ⟨rfl, hd⟩ | ⟨rfl, hd⟩ | ⟨hne', hd⟩ <;>
      simp only [hc, hd, List.cons_append, List.nil_append, List.cons.injEq] at h <;> grind

theorem flatMap_escape_injective {cs ds : List Char} (h : cs.flatMap escape = ds.flatMap escape) :
    cs = ds := by
  have hne : ∀ c : Char, escape c ≠ [] := fun c => by
    rcases escape_cases c with ⟨-, hc⟩ | ⟨-, hc⟩ | ⟨-, hc⟩ <;> simp [hc]
  induction cs generalizing ds with
  | nil =>
    cases ds with
    | nil => rfl
    | cons d ds => exact absurd (List.append_eq_nil_iff.1 h.symm).1 (hne d)
  | cons c cs ih =>
    cases ds with
    | nil => exact absurd (List.append_eq_nil_iff.1 h).1 (hne c)
    | cons d ds =>
      rw [List.flatMap_cons, List.flatMap_cons] at h
      obtain ⟨rfl, hrest⟩ := escape_append_inj h
      rw [ih hrest]

/-- A segment tells its text. -/
theorem segment_injective {s t : String} (h : segment s = segment t) : s = t :=
  String.toList_inj.1 (flatMap_escape_injective (String.ofList_injective h))

/-- A segment is one segment. -/
theorem slash_not_mem_segment (s : String) : '/' ∉ (segment s).toList := by
  rw [segment, String.toList_ofList, List.mem_flatMap]
  rintro ⟨c, -, hc⟩
  exact slash_not_mem_escape c hc

/-! ### Paths -/

/-- Two lists are the same if their parts before and after the first separator are. -/
theorem append_sep_inj {α : Type} {sep : α} {a b c d : List α} (ha : sep ∉ a) (hc : sep ∉ c)
    (h : a ++ sep :: b = c ++ sep :: d) : a = c ∧ b = d := by
  induction a generalizing c with
  | nil =>
    cases c with
    | nil => exact ⟨rfl, (List.cons.inj h).2⟩
    | cons x c => exact absurd (List.mem_cons.2 (.inl (List.cons.inj h).1)) hc
  | cons x a ih =>
    cases c with
    | nil => exact absurd (List.mem_cons.2 (.inl (List.cons.inj h).1.symm)) ha
    | cons y c =>
      obtain ⟨rfl, hrest⟩ := List.cons.inj h
      obtain ⟨rfl, rfl⟩ := ih (fun hx => ha (List.mem_cons_of_mem _ hx))
        (fun hx => hc (List.mem_cons_of_mem _ hx)) hrest
      exact ⟨rfl, rfl⟩

/-- A path below a prefix: the prefix, a segment, a slash and the rest. -/
theorem path_inj {start s t a b : String}
    (h : start ++ segment s ++ "/" ++ a = start ++ segment t ++ "/" ++ b) : s = t ∧ a = b := by
  have hlist := congrArg String.toList h
  simp only [String.toList_append, List.append_assoc, List.append_cancel_left_eq] at hlist
  obtain ⟨hs, hab⟩ := append_sep_inj (slash_not_mem_segment s) (slash_not_mem_segment t) hlist
  exact ⟨segment_injective (String.toList_inj.1 hs), String.toList_inj.1 hab⟩

theorem status_eq (uid : Uid) (view : String) :
    status uid view = "users/" ++ segment uid.text ++ "/" ++ ("status/" ++ segment view) := by
  simp only [status, user, String.append_assoc]
  rfl

theorem academics_eq (uid : Uid) :
    academics uid = "users/" ++ segment uid.text ++ "/" ++ "academics" := by
  simp only [academics, user, String.append_assoc]
  rfl

theorem uid_eq_of_text {u v : Uid} (h : u.text = v.text) : u = v := by
  cases u
  cases v
  cases h
  rfl

/-- Status feeds are kept apart by user and view. -/
theorem status_inj {u v : Uid} {a b : String} (h : status u a = status v b) : u = v ∧ a = b := by
  rw [status_eq, status_eq] at h
  obtain ⟨hu, hrest⟩ := path_inj h
  have hlist := congrArg String.toList hrest
  simp only [String.toList_append, List.append_cancel_left_eq] at hlist
  exact ⟨uid_eq_of_text hu, segment_injective (String.toList_inj.1 hlist)⟩

theorem academics_inj {u v : Uid} (h : academics u = academics v) : u = v := by
  rw [academics_eq, academics_eq] at h
  exact uid_eq_of_text (path_inj h).1

theorem academics_ne_status (u v : Uid) (view : String) : academics u ≠ status v view := by
  rw [academics_eq, status_eq]
  intro h
  have hlist := congrArg String.toList (path_inj h).2
  rw [String.toList_append] at hlist
  exact absurd (List.cons.inj hlist).1 (by decide)

/-- The stamps lie apart from everything that is kept of users. -/
theorem stamp_ne_of_user (u v : Uid) (view rest : String) :
    stamp u view ≠ "users/" ++ segment v.text ++ "/" ++ rest := by
  intro h
  have hlist := congrArg String.toList h
  simp only [stamp, stamps, String.toList_append, List.append_assoc] at hlist
  exact absurd (List.cons.inj hlist).1 (by decide)

theorem stamp_ne_status (u v : Uid) (view view' : String) : stamp u view ≠ status v view' := by
  rw [status_eq]
  exact stamp_ne_of_user u v view _

theorem stamp_ne_academics (u v : Uid) (view : String) : stamp u view ≠ academics v := by
  rw [academics_eq]
  exact stamp_ne_of_user u v view _

end Key

/-! ### What is forgotten together -/

theorem covers_iff (root key : String) :
    covers root key = true ↔ key = root ∨ ∃ rest, key = root ++ "/" ++ rest := by
  have hstrip : (Text.stripStart? (root ++ "/") key).isSome = true ↔
      ∃ rest, key = root ++ "/" ++ rest := by
    simp only [Option.isSome_iff_exists, Text.stripStart?_eq_some_iff]
  rw [covers, Bool.or_eq_true, hstrip, beq_iff_eq]

/-- Below one start, what lies under the segment of a user are the paths of that user. -/
theorem covers_path (start : String) (u v : Uid) (rest : String) :
    covers (start ++ Key.segment u.text) (start ++ Key.segment v.text ++ "/" ++ rest) =
      decide (u = v) := by
  rw [Bool.eq_iff_iff, covers_iff, decide_eq_true_iff]
  constructor
  · rintro (h | ⟨rest', h⟩)
    · -- a segment holds no slash
      have hlist := congrArg String.toList h
      simp only [String.toList_append, List.append_assoc, List.append_cancel_left_eq] at hlist
      have hslash : '/' ∈ (Key.segment u.text).toList := by
        rw [← hlist]
        simp
      exact absurd hslash (Key.slash_not_mem_segment _)
    · exact (Key.uid_eq_of_text (Key.path_inj h).1).symm
  · rintro rfl
    exact .inr ⟨rest, rfl⟩

/-- With a user everything under the key of that user is forgotten, and nothing of others. -/
theorem covers_user_path (u v : Uid) (rest : String) :
    covers (Key.user u) ("users/" ++ Key.segment v.text ++ "/" ++ rest) = decide (u = v) :=
  covers_path "users/" u v rest

theorem covers_user_status (u v : Uid) (view : String) :
    covers (Key.user u) (Key.status v view) = decide (u = v) := by
  rw [Key.status_eq, covers_user_path]

end CampusView.Cache
