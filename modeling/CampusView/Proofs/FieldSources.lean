import CampusView.Profile

/-!
# Where the fields of a profile come from

A name, an id or an address of a profile is told by the first source that has one: the visible
modern record, if its value is valid; else the legacy record, if its value can be shown; else, for
the two ids, the crosswalk. `Told` states these rules, one for each source and one for what nobody
tells, and a field is told in one way only (`Told.unique`).

`fields_told` says of each field of a profile which rule it follows. Given and family name also come
from a modern record that is hidden.
-/

namespace CampusView

open Json

/-! ### What each source tells -/

/-- How a value of the legacy record is shown: a text that is not blank as it is, and a number as it
is written. Nothing else is shown. -/
inductive ShownAs : Value → String → Prop
  | text {s : String} (h : Text.isBlankText s = false) : ShownAs (.string s) s
  | number (n : Number) : ShownAs (.number n) n.toText

/-- The record was found, and has a value in the field that is not null and is what the field
wants. -/
def Lookup.HasValid (answer : Lookup AttributeBag) (f : Field) (v : Value) : Prop :=
  ∃ bag, answer = .found bag ∧ bag.value? f = some v ∧ v ≠ .null ∧ validate f v = .ok v

/-- The id that the crosswalk gives for a field. -/
def CorrelatedIds.id? (ids : CorrelatedIds) : Field → Option String
  | .studentId => ids.studentId
  | .campusSolutionsId => ids.campusSolutionsId
  | _ => none

section

variable (answers : SourceAnswers) (ctx : ViewContext) (f : Field)

/-- The modern record is visible and has a valid value. -/
def ModernTells (v : Value) : Prop :=
  sisProfileVisible ctx answers.modern = true ∧ answers.modern.HasValid f v

/-- The legacy record was found and has a value that is shown as this text. -/
def LegacyTells (s : String) : Prop :=
  ∃ bag v, answers.legacy = .found bag ∧ bag.value? f = some v ∧ ShownAs v s

/-- The crosswalk knows this id. -/
def CrosswalkTells (s : String) : Prop :=
  ∃ ids, answers.crosswalk = .found ids ∧ ids.id? f = some s

/-- What is told of a field: the text of the first source that has one. -/
inductive Told : Option String → Prop
  | modern {s : String} (h : ModernTells answers ctx f (.string s)) : Told (some s)
  | legacy {s : String} (hmodern : ∀ v, ¬ModernTells answers ctx f v)
      (h : LegacyTells answers f s) : Told (some s)
  | crosswalk {s : String} (hmodern : ∀ v, ¬ModernTells answers ctx f v)
      (hlegacy : ∀ s, ¬LegacyTells answers f s) (h : CrosswalkTells answers f s) : Told (some s)
  | nobody (hmodern : ∀ v, ¬ModernTells answers ctx f v)
      (hlegacy : ∀ s, ¬LegacyTells answers f s)
      (hcrosswalk : ∀ s, ¬CrosswalkTells answers f s) : Told none

end

/-! ### A field is told in one way only -/

section

variable {answers : SourceAnswers} {ctx : ViewContext} {f : Field} {s s' : String}

theorem ShownAs.unique {v : Value} (h : ShownAs v s) (h' : ShownAs v s') : s = s' := by
  cases h <;> cases h' <;> rfl

theorem Lookup.HasValid.unique {answer : Lookup AttributeBag} {v v' : Value}
    (h : answer.HasValid f v) (h' : answer.HasValid f v') : v = v' := by
  obtain ⟨bag, rfl, hv, -⟩ := h
  obtain ⟨_, hbag, hv', -⟩ := h'
  cases hbag
  exact Option.some.inj (hv.symm.trans hv')

theorem LegacyTells.unique (h : LegacyTells answers f s) (h' : LegacyTells answers f s') :
    s = s' := by
  obtain ⟨bag, v, hbag, hv, hs⟩ := h
  obtain ⟨bag', v', hbag', hv', hs'⟩ := h'
  cases hbag.symm.trans hbag'
  cases hv.symm.trans hv'
  exact hs.unique hs'

theorem CrosswalkTells.unique (h : CrosswalkTells answers f s) (h' : CrosswalkTells answers f s') :
    s = s' := by
  obtain ⟨ids, hids, hs⟩ := h
  obtain ⟨ids', hids', hs'⟩ := h'
  cases hids.symm.trans hids'
  exact Option.some.inj (hs.symm.trans hs')

/-- A rule for a later source excludes the earlier ones, so no two rules tell different texts. -/
theorem Told.unique {t t' : Option String} (h : Told answers ctx f t)
    (h' : Told answers ctx f t') : t = t' := by
  cases h with
  | modern h =>
    cases h' with
    | modern h' =>
      cases h.2.unique h'.2
      rfl
    | legacy hmodern => exact absurd h (hmodern _)
    | crosswalk hmodern => exact absurd h (hmodern _)
    | nobody hmodern => exact absurd h (hmodern _)
  | legacy hmodern h =>
    cases h' with
    | modern h' => exact absurd h' (hmodern _)
    | legacy _ h' => exact congrArg some (h.unique h')
    | crosswalk _ hlegacy => exact absurd h (hlegacy _)
    | nobody _ hlegacy => exact absurd h (hlegacy _)
  | crosswalk hmodern hlegacy h =>
    cases h' with
    | modern h' => exact absurd h' (hmodern _)
    | legacy _ h' => exact absurd h' (hlegacy _)
    | crosswalk _ _ h' => exact congrArg some (h.unique h')
    | nobody _ _ hcrosswalk => exact absurd h (hcrosswalk _)
  | nobody hmodern hlegacy hcrosswalk =>
    cases h' with
    | modern h' => exact absurd h' (hmodern _)
    | legacy _ h' => exact absurd h' (hlegacy _)
    | crosswalk _ _ h' => exact absurd h' (hcrosswalk _)
    | nobody => rfl

/-! ### What is looked up is what is told -/

theorem scalarText?_eq_some_iff {v : Value} : scalarText? v = some s ↔ ShownAs v s := by
  constructor
  · intro h
    cases v with
    | string t =>
      cases hblank : Text.isBlankText t with
      | true => simp [scalarText?, hblank] at h
      | false =>
        obtain rfl : t = s := by simpa [scalarText?, hblank] using h
        exact .text hblank
    | number n =>
      obtain rfl : n.toText = s := Option.some.inj h
      exact .number n
    | _ => cases h
  · rintro (h | n)
    · simp [scalarText?, h]
    · rfl

theorem AttributeBag.get?_eq_some_iff {bag : AttributeBag} {v : Value} :
    bag.get? f = some v ↔ bag.value? f = some v ∧ v ≠ .null := by
  rw [get?, Option.filter_eq_some_iff]
  cases v <;> simp [Value.isNull]

theorem toOption_validate_eq_some_iff {v w : Value} :
    (validate f v).toOption = some w ↔ v = w ∧ validate f v = .ok v := by
  rw [validate]
  split <;> simp [Except.toOption]

theorem validValue?_found?_eq_some_iff {answer : Lookup AttributeBag} {v : Value} :
    SourceAnswers.validValue? answer.found? f = some v ↔ answer.HasValid f v := by
  constructor
  · intro h
    obtain ⟨bag, hbag, h⟩ := Option.bind_eq_some_iff.1 h
    obtain ⟨w, hw, h⟩ := Option.bind_eq_some_iff.1 h
    obtain ⟨hw, hnull⟩ := AttributeBag.get?_eq_some_iff.1 hw
    obtain ⟨rfl, hvalid⟩ := toOption_validate_eq_some_iff.1 h
    exact ⟨bag, Lookup.found?_eq_some_iff.1 hbag, hw, hnull, hvalid⟩
  · rintro ⟨bag, rfl, hv, hnull, hvalid⟩
    show ((bag.get? f).bind fun w => (validate f w).toOption) = some v
    rw [AttributeBag.get?_eq_some_iff.2 ⟨hv, hnull⟩]
    exact toOption_validate_eq_some_iff.2 ⟨rfl, hvalid⟩

theorem validValue?_visibleModern?_eq_some_iff {v : Value} :
    SourceAnswers.validValue? (answers.visibleModern? ctx) f = some v ↔
      ModernTells answers ctx f v := by
  rw [ModernTells, SourceAnswers.visibleModern?]
  cases sisProfileVisible ctx answers.modern with
  | true => simpa using validValue?_found?_eq_some_iff
  | false => simp [SourceAnswers.validValue?]

theorem legacyText_eq_some_iff :
    ((answers.legacy.found?.bind fun bag => bag.get? f).bind scalarText?) = some s ↔
      LegacyTells answers f s := by
  constructor
  · intro h
    obtain ⟨v, hv, hs⟩ := Option.bind_eq_some_iff.1 h
    obtain ⟨bag, hbag, hv⟩ := Option.bind_eq_some_iff.1 hv
    exact ⟨bag, v, Lookup.found?_eq_some_iff.1 hbag, (AttributeBag.get?_eq_some_iff.1 hv).1,
      scalarText?_eq_some_iff.1 hs⟩
  · rintro ⟨bag, v, hlegacy, hv, hs⟩
    have hnull : v ≠ .null := by
      rintro rfl
      cases hs
    rw [hlegacy]
    refine Option.bind_eq_some_iff.2 ⟨v, ?_, scalarText?_eq_some_iff.2 hs⟩
    exact Option.bind_eq_some_iff.2 ⟨bag, rfl, AttributeBag.get?_eq_some_iff.2 ⟨hv, hnull⟩⟩

theorem crosswalkId_eq_some_iff :
    (answers.crosswalk.found?.bind fun ids => ids.id? f) = some s ↔ CrosswalkTells answers f s := by
  simp only [Option.bind_eq_some_iff, Lookup.found?_eq_some_iff, CrosswalkTells]

/-- A digit is not blank. -/
theorem isBlank_of_isDigit_eq_true {c : Char} (h : c.isDigit = true) : Text.isBlank c = false := by
  obtain ⟨hlow, hhigh⟩ : 48 ≤ c.toNat ∧ c.toNat ≤ 57 := by
    simpa [Char.isDigit, UInt32.le_iff_toNat_le] using h
  simp [Text.isBlank]
  omega

/-- A valid value of a field that is no flag is a text that is not blank. -/
theorem text_of_validate {v : Value} (hf : f.format ≠ .boolean) (h : validate f v = .ok v) :
    ∃ s, v = .string s ∧ Text.isBlankText s = false := by
  have hadmits : f.format.admits v = true := by
    cases hadmits : f.format.admits v with
    | true => rfl
    | false => simp [validate, hadmits] at h
  cases v with
  | string s =>
    refine ⟨s, rfl, ?_⟩
    cases hformat : f.format with
    | string => simpa [hformat, Format.admits] using hadmits
    | numericString =>
      obtain ⟨hne, hdigits⟩ : s ≠ "" ∧ ∀ c ∈ s.toList, c.isDigit = true := by
        simpa [hformat, Format.admits] using hadmits
      obtain ⟨c, cs, hs⟩ := List.exists_cons_of_ne_nil (mt String.toList_eq_nil_iff.1 hne)
      have hc := isBlank_of_isDigit_eq_true (hdigits c (by simp [hs]))
      simp [Text.isBlankText, hs, hc]
    | boolean => exact absurd hformat hf
  | bool b => cases hformat : f.format <;> simp_all [Format.admits]
  | _ => cases hformat : f.format <;> simp [hformat, Format.admits] at hadmits

/-- Of a field that is no flag, what is looked up in the records and then in the crosswalk is what
is told. -/
theorem told_text (hf : f.format ≠ .boolean) :
    Told answers ctx f
      ((answers.text? ctx f).or (answers.crosswalk.found?.bind fun ids => ids.id? f)) := by
  rw [SourceAnswers.text?, SourceAnswers.value?]
  cases hmodern : SourceAnswers.validValue? (answers.visibleModern? ctx) f with
  | some v =>
    have htells := validValue?_visibleModern?_eq_some_iff.1 hmodern
    obtain ⟨bag, -, -, -, hvalid⟩ := htells.2
    obtain ⟨s, rfl, hs⟩ := text_of_validate hf hvalid
    simpa [scalarText?, hs] using Told.modern htells
  | none =>
    have hmodern : ∀ v, ¬ModernTells answers ctx f v := fun v hv =>
      Option.eq_none_iff_forall_ne_some.1 hmodern v (validValue?_visibleModern?_eq_some_iff.2 hv)
    rw [Option.none_or]
    cases hlegacy : (answers.legacy.found?.bind fun bag => bag.get? f).bind scalarText? with
    | some s => exact .legacy hmodern (legacyText_eq_some_iff.1 hlegacy)
    | none =>
      have hlegacy : ∀ s, ¬LegacyTells answers f s := fun s hs =>
        Option.eq_none_iff_forall_ne_some.1 hlegacy s (legacyText_eq_some_iff.2 hs)
      rw [Option.none_or]
      cases hcrosswalk : answers.crosswalk.found?.bind fun ids => ids.id? f with
      | some s => exact .crosswalk hmodern hlegacy (crosswalkId_eq_some_iff.1 hcrosswalk)
      | none =>
        exact .nobody hmodern hlegacy fun s hs =>
          Option.eq_none_iff_forall_ne_some.1 hcrosswalk s (crosswalkId_eq_some_iff.2 hs)

/-- Nothing is looked up in the records exactly if neither of them tells anything. -/
theorem text?_eq_none_iff (hf : f.format ≠ .boolean) :
    answers.text? ctx f = none ↔
      (∀ v, ¬ModernTells answers ctx f v) ∧ ∀ s, ¬LegacyTells answers f s := by
  -- the records tell the same if the crosswalk knows nobody
  have htold : Told ⟨answers.legacy, answers.modern, .notFound⟩ ctx f
      ((answers.text? ctx f).or none) := told_text hf
  rw [Option.or_none] at htold
  constructor
  · intro hnone
    rw [hnone] at htold
    cases htold with
    | nobody hmodern hlegacy => exact ⟨hmodern, hlegacy⟩
  · rintro ⟨hmodern, hlegacy⟩
    exact htold.unique (.nobody hmodern hlegacy fun _ ⟨_, hids, _⟩ => nomatch hids)

/-- The crosswalk tells nothing of a field that is no id. -/
theorem told_text_of_no_id (hf : f.format ≠ .boolean)
    (hid : ∀ ids : CorrelatedIds, ids.id? f = none) :
    Told answers ctx f (answers.text? ctx f) := by
  simpa [hid] using @told_text answers ctx f hf

/-- A name that the modern record may tell while it is hidden is its valid value, and without one
what it is otherwise. -/
theorem modernText?_getD (hf : f.format ≠ .boolean) (otherwise : String) :
    (∀ v, answers.modern.HasValid f v →
        v = .string ((answers.modernText? f).getD otherwise)) ∧
      ((∀ v, ¬answers.modern.HasValid f v) →
        (answers.modernText? f).getD otherwise = otherwise) := by
  constructor
  · intro v hv
    obtain ⟨bag, -, -, -, hvalid⟩ := id hv
    obtain ⟨s, rfl, hs⟩ := text_of_validate hf hvalid
    rw [SourceAnswers.modernText?, validValue?_found?_eq_some_iff.2 hv]
    simp [scalarText?, hs]
  · intro hnone
    cases hmodern : SourceAnswers.validValue? answers.modern.found? f with
    | none => rw [SourceAnswers.modernText?, hmodern, Option.bind_none, Option.getD_none]
    | some v => exact absurd (validValue?_found?_eq_some_iff.1 hmodern) (hnone v)

end

/-! ### The fields of a profile -/

/-- **Where the fields of a profile come from.** Name, ids and addresses are what is told of them,
and so are first and last name, which are empty if nobody tells them. Given and family name are the
valid values of the modern record, visible or not, and without one the first and the last name. The
preferred name is the one that the person chose, else the name, else empty; and the profile says
that there is no student id exactly if it has none. -/
theorem fields_told (uid : Uid) (answers : SourceAnswers) (data : Option UserData)
    (ctx : ViewContext) :
    let p := reconcile uid answers data ctx
    (∀ f t t', Told answers ctx f t → Told answers ctx f t' → t = t') ∧
      (Told answers ctx .personName p.defaultName ∧
        Told answers ctx .studentId p.studentId ∧
        Told answers ctx .campusSolutionsId p.campusSolutionsId ∧
        Told answers ctx .emailAddress p.emailAddress ∧
        Told answers ctx .officialBmailAddress p.officialBmailAddress) ∧
      (∃ t, Told answers ctx .firstName t ∧ p.firstName = t.getD "") ∧
      (∃ t, Told answers ctx .lastName t ∧ p.lastName = t.getD "") ∧
      ((∀ v, answers.modern.HasValid .givenName v → v = .string p.givenFirstName) ∧
        ((∀ v, ¬answers.modern.HasValid .givenName v) → p.givenFirstName = p.firstName)) ∧
      ((∀ v, answers.modern.HasValid .familyName v → v = .string p.familyName) ∧
        ((∀ v, ¬answers.modern.HasValid .familyName v) → p.familyName = p.lastName)) ∧
      ((∀ name, data.bind UserData.preferredName = some name → p.preferredName = name) ∧
        (data.bind UserData.preferredName = none →
          p.preferredName = p.defaultName.getD "")) ∧
      (p.noStudentId = true ↔ p.studentId = none) := by
  intro p
  have hname : ∀ {f}, f.format ≠ .boolean → (∀ ids : CorrelatedIds, ids.id? f = none) →
      Told answers ctx f (answers.text? ctx f) := told_text_of_no_id
  refine ⟨fun _ _ _ => Told.unique, ⟨?_, ?_, ?_, ?_, ?_⟩, ?_, ?_, ?_, ?_, ⟨?_, ?_⟩, ?_⟩
  · exact hname (by decide) fun _ => rfl
  · exact told_text (by decide)
  · exact told_text (by decide)
  · exact hname (by decide) fun _ => rfl
  · exact hname (by decide) fun _ => rfl
  · exact ⟨_, hname (by decide) fun _ => rfl, rfl⟩
  · exact ⟨_, hname (by decide) fun _ => rfl, rfl⟩
  · exact modernText?_getD (by decide) p.firstName
  · exact modernText?_getD (by decide) p.lastName
  · intro name hchosen
    simp [p, reconcile, hchosen]
  · intro hnone
    simp [p, reconcile, hnone]
  · simp [p, reconcile]

/-- A modern record whose name is an error of its system and whose student id is not numeric. -/
def migratingModern : AttributeBag where
  value?
    | .personName => some (.object [("statusCode", .ofNat 503)])
    | .givenName => some (.string "John")
    | .familyName => some .null
    | .studentId => some (.string "CC123")
    | .campusSolutionsId => some (.string "1234567890")
    | _ => none
  roles := ∅

/-- A legacy record whose student id is a number, and whose address is blank. -/
def migratingLegacy : AttributeBag where
  value?
    | .personName => some (.string "Eugene V Debs")
    | .lastName => some (.string "Debs")
    | .studentId => some (.ofNat 18551926)
    | .emailAddress => some (.string " ")
    | _ => none
  roles := ∅

/-- The given name is that of the modern record, which has no valid family name, and the chosen name
is preferred. The invalid values are passed over: the student id is the number of the legacy record,
though the crosswalk has another, and of the blank address nobody tells anything. -/
theorem fields_told_migrating :
    let ids : CorrelatedIds := ⟨some "24363318", some "24363318", none⟩
    let answers : SourceAnswers := ⟨.found migratingLegacy, .found migratingModern, .found ids⟩
    let data : UserData := ⟨⟨"61889"⟩, some "Oski", none⟩
    let p := reconcile ⟨"61889"⟩ answers (some data) ⟨{}, false⟩
    answers.modern.HasValid .givenName (.string "John") ∧ p.givenFirstName = "John" ∧
      (∀ v, ¬answers.modern.HasValid .familyName v) ∧ p.familyName = "Debs" ∧
      (some data).bind UserData.preferredName = some "Oski" ∧ p.preferredName = "Oski" ∧
      ModernTells answers ⟨{}, false⟩ .campusSolutionsId (.string "1234567890") ∧
      p.campusSolutionsId = some "1234567890" ∧
      p.defaultName = some "Eugene V Debs" ∧ p.studentId = some "18551926" ∧
      p.noStudentId = false ∧ p.emailAddress = none := by
  intro ids answers data p
  obtain ⟨hunique, ⟨-, -, hid, -, -⟩, -, -, ⟨hgiven, -⟩, ⟨-, hfamily⟩, ⟨hchosen, -⟩, -⟩ :=
    fields_told ⟨"61889"⟩ answers (some data) ⟨{}, false⟩
  have hvalid : answers.modern.HasValid .givenName (.string "John") :=
    ⟨migratingModern, rfl, rfl, nofun, rfl⟩
  have hnone : ∀ v, ¬answers.modern.HasValid .familyName v := by
    rintro v ⟨bag, hbag, hv, hnull, -⟩
    cases hbag
    exact hnull (Option.some.inj hv).symm
  have hmodern : ModernTells answers ⟨{}, false⟩ .campusSolutionsId (.string "1234567890") :=
    ⟨by decide, migratingModern, rfl, rfl, nofun, rfl⟩
  refine ⟨hvalid, ?_, hnone, (hfamily hnone).trans (by decide), rfl, hchosen _ rfl, hmodern,
    (hunique _ _ _ (.modern hmodern) hid).symm, by decide, by decide, by decide, by decide⟩
  exact (Value.string.inj (hgiven _ hvalid)).symm

end CampusView
