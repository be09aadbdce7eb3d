/-!
# Cutting texts into pieces

`splitOn` cuts a text at every occurrence of a character, and `stripStart?` removes a given
beginning.
-/

namespace CampusView.Text

/-- The pieces of a text between the occurrences of a character. There is one more than
occurrences. -/
def splitOn (sep : Char) : List Char → List (List Char)
  | [] => [[]]
  | c :: cs =>
    if c = sep then [] :: splitOn sep cs
    else match splitOn sep cs with
      | [] => [[c]]
      | piece :: pieces => (c :: piece) :: pieces

section

variable {sep c : Char}

theorem splitOn_cons_sep (cs : List Char) : splitOn sep (sep :: cs) = [] :: splitOn sep cs :=
  if_pos rfl

theorem splitOn_ne_nil (sep : Char) (cs : List Char) : splitOn sep cs ≠ [] := by
  cases cs with
  | nil => exact List.cons_ne_nil _ _
  | cons c cs =>
    rw [splitOn]
    split
    · exact List.cons_ne_nil _ _
    · split <;> exact List.cons_ne_nil _ _

/-- Another character begins the first piece. -/
theorem splitOn_cons_of_ne (h : c ≠ sep) (cs : List Char) :
    ∃ piece pieces, splitOn sep cs = piece :: pieces ∧
      splitOn sep (c :: cs) = (c :: piece) :: pieces := by
  obtain ⟨piece, pieces, hcs⟩ := List.exists_cons_of_ne_nil (splitOn_ne_nil sep cs)
  exact ⟨piece, pieces, hcs, by rw [splitOn, if_neg h, hcs]⟩

theorem splitOn_append_sep (as bs : List Char) :
    splitOn sep (as ++ sep :: bs) = splitOn sep as ++ splitOn sep bs := by
  induction as with
  | nil => exact splitOn_cons_sep bs
  | cons a as ih =>
    by_cases ha : a = sep
    · subst ha
      rw [List.cons_append, splitOn_cons_sep, splitOn_cons_sep, ih, List.cons_append]
    · obtain ⟨piece, pieces, has, hcons⟩ := splitOn_cons_of_ne ha as
      obtain ⟨piece', pieces', habs, hcons'⟩ := splitOn_cons_of_ne ha (as ++ sep :: bs)
      rw [ih, has, List.cons_append, List.cons.injEq] at habs
      rw [List.cons_append, hcons', hcons, ← habs.1, ← habs.2, List.cons_append]

/-- A text without separators is one piece. -/
theorem splitOn_of_not_mem {cs : List Char} (h : sep ∉ cs) : splitOn sep cs = [cs] := by
  induction cs with
  | nil => rfl
  | cons c cs ih =>
    rw [List.mem_cons, not_or] at h
    rw [splitOn, if_neg (Ne.symm h.1), ih h.2]

/-- What comes before the first separator is the first piece. -/
theorem splitOn_append_of_not_mem {as : List Char} (h : sep ∉ as) (bs : List Char) :
    splitOn sep (as ++ sep :: bs) = as :: splitOn sep bs := by
  rw [splitOn_append_sep, splitOn_of_not_mem h, List.singleton_append]

/-- A text is one piece, or a piece with a separator and a shorter text after it. -/
theorem pieces_induction {motive : List Char → Prop} (sep : Char)
    (piece : ∀ cs, sep ∉ cs → motive cs)
    (append : ∀ as bs, sep ∉ as → motive bs → motive (as ++ sep :: bs)) (cs : List Char) :
    motive cs := by
  by_cases h : sep ∈ cs
  · obtain ⟨as, bs, hcs, has⟩ := List.eq_append_cons_of_mem h
    rw [hcs]
    exact append as bs has (pieces_induction sep piece append bs)
  · exact piece cs h
termination_by cs.length
decreasing_by
  rw [hcs, List.length_append, List.length_cons]
  omega

/-- The pieces of texts with separators between them are the pieces of each. -/
theorem mem_splitOn_intercalate {piece : List Char} {texts : List (List Char)}
    (h : texts ≠ []) :
    piece ∈ splitOn sep ([sep].intercalate texts) ↔ ∃ cs ∈ texts, piece ∈ splitOn sep cs := by
  induction texts with
  | nil => exact absurd rfl h
  | cons cs texts ih =>
    cases texts with
    | nil => simp [List.intercalate]
    | cons ds texts =>
      have hcons : [sep].intercalate (cs :: ds :: texts) =
          cs ++ sep :: [sep].intercalate (ds :: texts) := by
        simp [List.intercalate]
      rw [hcons, splitOn_append_sep, List.mem_append, ih (List.cons_ne_nil ds texts)]
      simp only [List.mem_cons, exists_eq_or_imp]

/-- A text whose first pieces are those of another begins with the same character. -/
theorem splitOn_prefix_cons {a : Char} {as bs : List Char}
    (h : splitOn sep (a :: as) <+: splitOn sep bs) :
    ∃ rest, bs = a :: rest ∧ splitOn sep as <+: splitOn sep rest := by
  cases bs with
  | nil =>
    by_cases ha : a = sep
    · subst ha
      rw [splitOn_cons_sep, splitOn, List.cons_prefix_cons, List.prefix_nil] at h
      exact absurd h.2 (splitOn_ne_nil _ as)
    · obtain ⟨piece, pieces, -, hcons⟩ := splitOn_cons_of_ne ha as
      rw [hcons, splitOn, List.cons_prefix_cons] at h
      cases h.1
  | cons b bs =>
    by_cases ha : a = sep <;> by_cases hb : b = sep
    · subst ha hb
      rw [splitOn_cons_sep, splitOn_cons_sep, List.cons_prefix_cons] at h
      exact ⟨bs, rfl, h.2⟩
    · obtain ⟨piece, pieces, -, hcons⟩ := splitOn_cons_of_ne hb bs
      rw [ha, splitOn_cons_sep, hcons, List.cons_prefix_cons] at h
      cases h.1
    · obtain ⟨piece, pieces, -, hcons⟩ := splitOn_cons_of_ne ha as
      rw [hb, splitOn_cons_sep, hcons, List.cons_prefix_cons] at h
      cases h.1
    · obtain ⟨piece, pieces, has, hcons⟩ := splitOn_cons_of_ne ha as
      obtain ⟨piece', pieces', hbs, hcons'⟩ := splitOn_cons_of_ne hb bs
      rw [hcons, hcons', List.cons_prefix_cons, List.cons.injEq] at h
      obtain ⟨⟨rfl, rfl⟩, hpieces⟩ := h
      exact ⟨bs, rfl, by rw [has, hbs, List.cons_prefix_cons]; exact ⟨rfl, hpieces⟩⟩

/-- The pieces of a text come first in those of another exactly if the other is the same or goes on
after a separator. -/
theorem splitOn_prefix_iff (as bs : List Char) :
    splitOn sep as <+: splitOn sep bs ↔ bs = as ∨ ∃ rest, bs = as ++ sep :: rest := by
  constructor
  · intro h
    induction as generalizing bs with
    | nil =>
      cases bs with
      | nil => exact .inl rfl
      | cons b bs =>
        by_cases hb : b = sep
        · exact .inr ⟨bs, hb ▸ rfl⟩
        · obtain ⟨piece, pieces, -, hcons⟩ := splitOn_cons_of_ne hb bs
          rw [hcons, splitOn, List.cons_prefix_cons] at h
          cases h.1
    | cons a as ih =>
      obtain ⟨rest, rfl, hrest⟩ := splitOn_prefix_cons h
      rcases ih rest hrest with rfl | ⟨tail, rfl⟩
      · exact .inl rfl
      · exact .inr ⟨tail, rfl⟩
  · rintro (rfl | ⟨rest, rfl⟩)
    · exact List.prefix_rfl
    · exact splitOn_append_sep as rest ▸ List.prefix_append _ _

end

/-- The text after a given beginning, if it begins like that. -/
def stripStart? (start s : String) : Option String :=
  (start.toList.isPrefixOf? s.toList).map String.ofList

theorem stripStart?_eq_some_iff {start s rest : String} :
    stripStart? start s = some rest ↔ s = start ++ rest := by
  have hchars : ∀ cs ds es : List Char, cs.isPrefixOf? ds = some es ↔ ds = cs ++ es := by
    intro cs
    induction cs with
    | nil => exact fun ds es => Option.some_inj
    | cons c cs ih =>
      intro ds es
      cases ds with
      | nil => exact iff_of_false nofun nofun
      | cons d ds =>
        show (if c == d then cs.isPrefixOf? ds else none) = some es ↔ d :: ds = c :: (cs ++ es)
        by_cases hcd : c = d
        · simp [hcd, ih]
        · simp [hcd, Ne.symm hcd]
  rw [stripStart?, Option.map_eq_some_iff, ← String.toList_inj, String.toList_append, ← hchars]
  constructor
  · rintro ⟨cs, hs, rfl⟩
    rw [hs, String.toList_ofList]
  · intro hs
    exact ⟨rest.toList, hs, String.ofList_toList⟩

/-- An ASCII letter in lower case; other characters stay. -/
def lowerAscii (s : String) : String := String.ofList (s.toList.map Char.toLower)

/-- Equal but for the case of ASCII letters. -/
def equalIgnoringCase (a b : String) : Bool := lowerAscii a == lowerAscii b

end CampusView.Text
