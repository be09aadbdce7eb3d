import CampusView.Http.EntityTag
import CampusView.Http.Headers

/-!
# Conditions

A client that holds copies sends a `Condition` along: a star, which any copy meets, or a list of the
tags of its copies. `Condition.text` is how a condition is written, with commas between the tags
and any blanks around each. A tag may hold commas and stars itself.

`Condition.Names` says what a condition means, whatever its text looks like, and
`Condition.HidesStar` is about the text of a tag: there is a star between two of its commas.
-/

namespace CampusView.Http

/-- A character that a tag may hold: a visible one, and no quote. -/
def isTagChar (c : Char) : Bool := isValueChar c && !Text.isBlank c && c ≠ '"'

theorem isTagChar_iff {c : Char} :
    isTagChar c = true ↔ isValueChar c = true ∧ Text.isBlank c = false ∧ c ≠ '"' := by
  simp [isTagChar, and_assoc]

/-! ### Tags -/

/-- An entity tag: visible characters in quotes, marked if the tag is weak. -/
structure EntityTag where
  isWeak : Bool := false
  /-- What stands between the quotes. -/
  content : String
  visible : content.toList.all isTagChar = true := by decide

namespace EntityTag

variable (t : EntityTag)

/-- The mark of a weak tag. -/
def mark : List Char := if t.isWeak then ['W', '/'] else []

/-- The mark, then the content in quotes. -/
def chars : List Char := t.mark ++ '"' :: (t.content.toList ++ ['"'])

theorem isTagChar_of_mem : ∀ c ∈ t.content.toList, isTagChar c = true :=
  List.all_eq_true.1 t.visible

theorem mark_cases : t.mark = [] ∨ t.mark = ['W', '/'] := by
  unfold mark
  split
  · exact .inr rfl
  · exact .inl rfl

theorem comma_not_mem_mark : ',' ∉ t.mark := by
  rcases t.mark_cases with h | h <;> rw [h] <;> decide

theorem isBlank_of_mem_mark : ∀ c ∈ t.mark, Text.isBlank c = false := by
  rcases t.mark_cases with h | h <;> rw [h]
  · exact nofun
  · exact List.forall_mem_cons.2 ⟨by decide, List.forall_mem_singleton.2 (by decide)⟩

theorem withoutWeakMarks_mark (cs : List Char) :
    withoutWeakMarks (t.mark ++ '"' :: cs) = '"' :: cs := by
  rcases t.mark_cases with h | h <;> simp [h, withoutWeakMarks]

end EntityTag

/-! ### Lists of tags -/

/-- Any number of blanks. -/
structure Blanks where
  chars : List Char := []
  blank : chars.all Text.isBlank = true := by decide

namespace Blanks

variable (b : Blanks)

theorem isBlank_of_mem : ∀ c ∈ b.chars, Text.isBlank c = true := List.all_eq_true.1 b.blank

theorem comma_not_mem : ',' ∉ b.chars := fun h => absurd (b.isBlank_of_mem ',' h) (by decide)

end Blanks

/-- A tag in a list, with the blanks around it. -/
structure ListedTag where
  before : Blanks := {}
  tag : EntityTag
  after : Blanks := {}

/-- The characters of a tag and of the blanks around it. -/
def ListedTag.chars (t : ListedTag) : List Char := t.before.chars ++ (t.tag.chars ++ t.after.chars)

/-! ### Conditions -/

/-- What a client sends along. -/
inductive Condition
  /-- The client holds some copy. -/
  | star (before after : Blanks)
  /-- The client holds copies with these tags. -/
  | tags (listed : List ListedTag)

namespace Condition

/-- A condition as it is sent. -/
def text : Condition → String
  | star before after => String.ofList (before.chars ++ (['*'] ++ after.chars))
  | tags listed => String.ofList ([','].intercalate (listed.map ListedTag.chars))

/-- The condition is a star, or lists a tag with this content, weak or not. -/
def Names (hash : String) : Condition → Prop
  | star _ _ => True
  | tags listed => ∃ t ∈ listed, t.tag.content = hash

/-- The content of a listed tag has a star between two commas. -/
def HidesStar : Condition → Prop
  | star _ _ => False
  | tags listed => ∃ t ∈ listed, [',', '*', ','] <:+: t.tag.content.toList

instance (hash : String) : (c : Condition) → Decidable (c.Names hash)
  | star _ _ => inferInstanceAs (Decidable True)
  | tags listed => inferInstanceAs (Decidable (∃ t ∈ listed, t.tag.content = hash))

instance : (c : Condition) → Decidable c.HidesStar
  | star _ _ => inferInstanceAs (Decidable False)
  | tags listed =>
    inferInstanceAs (Decidable (∃ t ∈ listed, [',', '*', ','] <:+: t.tag.content.toList))

/-- A hash without commas is not named by tags with commas. -/
theorem not_names_of_commas {hash : String} (hhash : ',' ∉ hash.toList) {listed : List ListedTag}
    (h : ∀ t ∈ listed, ',' ∈ t.tag.content.toList) : ¬(tags listed).Names hash := by
  rintro ⟨t, ht, rfl⟩
  exact hhash (h t ht)

end Condition

end CampusView.Http
