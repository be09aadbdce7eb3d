/-!
# Blank characters

Identifiers, names and header values are compared after the blanks at both ends are dropped.
`isBlank` is membership in Unicode's `White_Space` property, and `trim` removes the longest run
of blanks at each end.
-/

namespace CampusView.Text

/-- Membership in Unicode's `White_Space` property. -/
def isBlank (c : Char) : Bool :=
  let n := c.toNat
  (9 ≤ n && n ≤ 13) || n == 0x20 || n == 0x85 || n == 0xA0 || n == 0x1680 ||
    (0x2000 ≤ n && n ≤ 0x200A) || n == 0x2028 || n == 0x2029 || n == 0x202F ||
    n == 0x205F || n == 0x3000

/-- Drop the blanks a text starts with. -/
def trimStartChars (cs : List Char) : List Char := cs.dropWhile isBlank

/-- Drop the blanks a text starts or ends with. -/
def trimChars (cs : List Char) : List Char :=
  (trimStartChars (trimStartChars cs).reverse).reverse

/-- Drop the blanks a text starts or ends with. -/
def trim (s : String) : String := String.ofList (trimChars s.toList)

/-- A text that holds nothing but blanks. -/
def isBlankText (s : String) : Bool := s.toList.all isBlank

/-- What is left after the leading blanks starts with no blank. -/
theorem trimStartChars_head {cs ds : List Char} {c : Char} (h : trimStartChars cs = c :: ds) :
    isBlank c = false := by
  have hc := List.head?_dropWhile_not isBlank cs
  rw [trimStartChars] at h
  simpa [h] using hc

/-- Dropping the leading blanks leaves nothing exactly of a blank text. -/
theorem trimStartChars_eq_nil_iff {cs : List Char} :
    trimStartChars cs = [] ↔ ∀ c ∈ cs, isBlank c = true := by
  induction cs with
  | nil => simp [trimStartChars]
  | cons d es ih =>
    rw [trimStartChars, List.dropWhile_cons, List.forall_mem_cons]
    by_cases hd : isBlank d = true
    · rw [if_pos hd]
      exact ⟨fun h => ⟨hd, ih.1 h⟩, fun h => ih.2 h.2⟩
    · rw [if_neg hd]
      exact ⟨nofun, fun h => absurd h.1 hd⟩

/-- Trimming leaves nothing exactly of a blank text. -/
theorem trimChars_eq_nil_iff {cs : List Char} :
    trimChars cs = [] ↔ ∀ c ∈ cs, isBlank c = true := by
  rw [← trimStartChars_eq_nil_iff, trimChars, List.reverse_eq_nil_iff, trimStartChars_eq_nil_iff]
  constructor
  · intro h
    cases hs : trimStartChars cs with
    | nil => rfl
    | cons c ds =>
      have hc := trimStartChars_head hs
      have := h c (by simp [hs])
      simp [hc] at this
  · intro h c hc
    simp [h] at hc

/-- A text that starts with no blank keeps its beginning. -/
theorem trimStartChars_cons {c : Char} {cs : List Char} (hc : isBlank c = false) :
    trimStartChars (c :: cs) = c :: cs := by
  rw [trimStartChars, List.dropWhile_cons_of_neg (by simp [hc])]

theorem trimStartChars_trimStartChars (cs : List Char) :
    trimStartChars (trimStartChars cs) = trimStartChars cs := by
  cases h : trimStartChars cs with
  | nil => rfl
  | cons c ds => exact trimStartChars_cons (trimStartChars_head h)

/-- A trimmed text starts like the text without its leading blanks. -/
theorem trimChars_prefix (cs : List Char) : trimChars cs <+: trimStartChars cs := by
  rw [← List.reverse_suffix, trimChars, List.reverse_reverse]
  exact List.dropWhile_suffix isBlank

theorem trimChars_trimChars (cs : List Char) : trimChars (trimChars cs) = trimChars cs := by
  have hstart : trimStartChars (trimChars cs) = trimChars cs := by
    cases h : trimChars cs with
    | nil => rfl
    | cons c ds =>
      obtain ⟨es, hes⟩ := h ▸ trimChars_prefix cs
      exact trimStartChars_cons (trimStartChars_head hes.symm)
  have hend : trimStartChars (trimChars cs).reverse = (trimChars cs).reverse := by
    rw [trimChars, List.reverse_reverse, trimStartChars_trimStartChars]
  rw [trimChars, hstart, hend, List.reverse_reverse]

/-- What is trimmed are the blanks around a text without blanks. -/
theorem trimChars_append {before cs after : List Char} (hbefore : ∀ c ∈ before, isBlank c = true)
    (hcs : ∀ c ∈ cs, isBlank c = false) (hafter : ∀ c ∈ after, isBlank c = true) :
    trimChars (before ++ (cs ++ after)) = cs := by
  have hskip : ∀ bs ds : List Char, (∀ c ∈ bs, isBlank c = true) →
      trimStartChars (bs ++ ds) = trimStartChars ds :=
    fun bs ds hbs => List.dropWhile_append_of_pos hbs
  have hstart : ∀ ds : List Char, (∀ c ∈ ds, isBlank c = false) → trimStartChars ds = ds := by
    intro ds hds
    cases ds with
    | nil => rfl
    | cons d ds => exact trimStartChars_cons (hds d List.mem_cons_self)
  rw [trimChars, hskip _ _ hbefore]
  cases cs with
  | nil =>
    rw [List.nil_append, trimStartChars_eq_nil_iff.2 hafter]
    rfl
  | cons c cs =>
    rw [List.cons_append, trimStartChars_cons (hcs c List.mem_cons_self), ← List.cons_append,
      List.reverse_append, hskip _ _ fun d hd => hafter d (List.mem_reverse.1 hd),
      hstart _ fun d hd => hcs d (List.mem_reverse.1 hd), List.reverse_reverse]

/-- There is nothing to trim of a trimmed text. -/
@[simp] theorem trim_trim (s : String) : trim (trim s) = trim s := by
  rw [trim, trim, String.toList_ofList, trimChars_trimChars]

/-- Trimming leaves blank texts blank, and no others. -/
@[simp] theorem isBlankText_trim (s : String) : isBlankText (trim s) = isBlankText s := by
  have hblank : ∀ cs : List Char, cs.all isBlank = decide (trimChars cs = []) := by
    intro cs
    rw [Bool.eq_iff_iff, List.all_eq_true, decide_eq_true_iff, trimChars_eq_nil_iff]
  rw [isBlankText, isBlankText, trim, String.toList_ofList, hblank, hblank, trimChars_trimChars]

end CampusView.Text
