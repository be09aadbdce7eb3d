import CampusView.Proofs.AffiliationRoles
import CampusView.Proofs.Json.Members

/-!
# Entries of a list of affiliations

The student record lists affiliations in an array. What cannot be read as an affiliation is left
out, as is everything that is neither an object nor an array. But an array is read as well, if its
items are the members of an affiliation in their order: `[["STUDENT"], ["ACT"]]` is an active
student.

`ListsAffiliation` says which arrays these are. `ofArray_without_iff` says that an entry that is no
object can be left out exactly if it is not one of them, and what roles it gives if it is.
-/

namespace CampusView

open Json Time
open Affiliation (Listed)

/-! ### Arrays in the place of records -/

/-- What the members of a record have to be, in the order of declaration. -/
abbrev Kinds := List (String × (Value → Prop))

/-- An array with values of these kinds in this order. The last ones may be missing. -/
def InOrder (kinds : List (Value → Prop)) (v : Value) : Prop :=
  ∃ xs, v = .array xs ∧ xs.length ≤ kinds.length ∧ ∀ p ∈ kinds.zip xs, p.1 p.2

/-- An object with members of these kinds, as far as it has them, or an array with them in their
order. -/
def RecordOf (kinds : Kinds) (v : Value) : Prop :=
  (∃ ms, v = .object ms ∧ ∀ m ∈ kinds, ∀ x, ms.lookup m.1 = some x → m.2 x) ∨
    InOrder (kinds.map Prod.snd) v

/-- A text or a null. -/
def TextOrNull (v : Value) : Prop := v = .null ∨ ∃ s, v = .string s

/-- A code with what it stands for, or a null. -/
def CodeOrNull (v : Value) : Prop :=
  v = .null ∨ RecordOf [("code", TextOrNull), ("description", TextOrNull)] v

/-- An array with the type, the status, and the first and last day of an affiliation. -/
def ListsAffiliation (v : Value) : Prop :=
  InOrder [CodeOrNull, CodeOrNull, TextOrNull, TextOrNull] v

/-- To list the affiliation beside others gives a role that they do not give. -/
def Affiliation.AddsRole (others : List Affiliation) (today : Date) (a : Affiliation) : Prop :=
  ∃ code, a.HasCodes ∧ a.typeCode? = some code ∧
    ((a.ActiveOn today ∧ (code = "STUDENT" ∨ ∃ r : Role, r.type? = some code) ∧
        ¬Listed others today code true) ∨
      (¬a.ActiveOn today ∧ code = "STUDENT" ∧ ∀ active, ¬Listed others today code active))

/-! ### What is read -/

section Reading

variable {v : Value}

/-- In an array the members are those at their places. -/
theorem forall_lookup_zip_iff {kinds : Kinds} (h : (kinds.map Prod.fst).Nodup) (xs : List Value) :
    (∀ m ∈ kinds, ∀ x, ((kinds.map Prod.fst).zip xs).lookup m.1 = some x → m.2 x) ↔
      ∀ p ∈ (kinds.map Prod.snd).zip xs, p.1 p.2 := by
  induction kinds generalizing xs with
  | nil => simp
  | cons kind kinds ih =>
    obtain ⟨hnew, hnodup⟩ := List.nodup_cons.1 h
    cases xs with
    | nil => simp
    | cons x xs =>
      simp only [List.map_cons, List.zip_cons_cons, List.forall_mem_cons, Members.lookup_cons,
        if_true, Option.some.injEq, forall_eq']
      refine and_congr_right fun _ => (forall₂_congr fun m hm => ?_).trans (ih hnodup xs)
      -- the first name is that of the first item only
      have hne : m.1 ≠ kind.1 := fun heq => hnew (heq ▸ List.mem_map_of_mem hm)
      simp only [if_neg hne]

theorem exists_record_iff {layout : Layout} {kinds : Kinds}
    (hnames : layout.map Prod.fst = kinds.map Prod.fst) (h : (kinds.map Prod.fst).Nodup) :
    (∃ r, v.record? layout = some r ∧ ∀ m ∈ kinds, ∀ x, r.find? m.1 = some x → m.2 x) ↔
      RecordOf kinds v := by
  have hlength : layout.length = (kinds.map Prod.snd).length := by
    simpa using congrArg List.length hnames
  cases v with
  | object ms => simp [Value.record?, RecordOf, InOrder]
  | array xs =>
    simp only [Value.record?, hnames, hlength, RecordOf, InOrder, Value.array.injEq, reduceCtorEq,
      false_and, exists_false, false_or, exists_eq_left', ← forall_lookup_zip_iff h xs]
    by_cases hxs : xs.length ≤ (kinds.map Prod.snd).length
    · simp only [hxs, if_true, true_and, Option.some.injEq, exists_eq_left']
    · simp only [hxs, if_false, false_and, reduceCtorEq, exists_false]
  | _ => simp [Value.record?, RecordOf, InOrder]

theorem recordOf_iff_inOrder (hv : v.members? = none) (kinds : Kinds) :
    RecordOf kinds v ↔ InOrder (kinds.map Prod.snd) v := by
  refine or_iff_right ?_
  rintro ⟨ms, rfl, -⟩
  cases hv

/-- A member with a default is read if it is missing or can be read. -/
theorem isSome_getD? {α : Type} [Decode α] (r : Record) (k : String) (d : α) :
    (r.getD? k d).isSome = true ↔
      ∀ x, r.find? k = some x → (decode? x : Option α).isSome = true := by
  unfold Record.getD?
  cases r.find? k <;> simp

theorem isSome_decode?_optional {α : Type} [Decode α] :
    (decode? v : Option (Option α)).isSome = true ↔
      v = .null ∨ (decode? v : Option α).isSome = true := by
  cases v <;> simp [decode?, Value.isNull]

theorem isSome_decode?_text :
    (decode? v : Option (Option String)).isSome = true ↔ TextOrNull v := by
  rw [isSome_decode?_optional, TextOrNull]
  cases v <;> simp [decode?, Value.toText?]

theorem isSome_decode?_code :
    (decode? v : Option (Option Code)).isSome = true ↔ CodeOrNull v := by
  have hrecord := @exists_record_iff v Code.layout
    [("code", TextOrNull), ("description", TextOrNull)] rfl (by decide)
  simp only [List.forall_mem_cons, List.not_mem_nil, false_imp_iff, implies_true, and_true,
    ← isSome_decode?_text, ← isSome_getD? _ _ (none : Option String)] at hrecord
  rw [isSome_decode?_optional, CodeOrNull, ← hrecord]
  simp only [decode?, Option.bind_eq_bind, Option.isSome_bind, Option.any_eq_true,
    Option.pure_def, Option.isSome_some, and_true, exists_and_right, ← Option.isSome_iff_exists]

/-- An affiliation is read from what is no object exactly if it is listed in order. -/
theorem isSome_decode?_affiliation (hv : v.members? = none) :
    (decode? v : Option Affiliation).isSome = true ↔ ListsAffiliation v := by
  have hrecord := @exists_record_iff v Affiliation.layout
    [("type", CodeOrNull), ("status", CodeOrNull), ("fromDate", TextOrNull),
      ("toDate", TextOrNull)] rfl (by decide)
  simp only [List.forall_mem_cons, List.not_mem_nil, false_imp_iff, implies_true, and_true,
    ← isSome_decode?_text, ← isSome_decode?_code, ← isSome_getD? _ _ (none : Option String),
    ← isSome_getD? _ _ (none : Option Code)] at hrecord
  refine Iff.trans ?_ (hrecord.trans (recordOf_iff_inOrder hv _))
  simp only [decode?, Option.bind_eq_bind, Option.isSome_bind, Option.any_eq_true,
    Option.pure_def, Option.isSome_some, and_true, exists_and_right, ← Option.isSome_iff_exists]

end Reading

/-! ### What one more affiliation does -/

section Roles

variable {before after : List Affiliation} {a : Affiliation} {today : Date} {code : String}
  {active : Bool}

/-- The affiliation between the others is listed too. -/
theorem listed_insert_iff : Listed (before ++ a :: after) today code active ↔
    (a.HasCodes ∧ a.typeCode? = some code ∧ (active = true ↔ a.ActiveOn today)) ∨
      Listed (before ++ after) today code active := by
  simp only [Listed, List.perm_middle.mem_iff, List.mem_cons, or_and_right, exists_or,
    exists_eq_left]

theorem classifyAt_eq_iff {affiliations others : List Affiliation} :
    classifyAt others today = classifyAt affiliations today ↔
      ∀ r, Licensed others today r ↔ Licensed affiliations today r := by
  have hgrants := fun affiliations => grantsExactly_classifyAt affiliations today
  constructor
  · intro heq r
    rw [← (hgrants others).get_iff, heq, (hgrants affiliations).get_iff]
  · exact (hgrants others).eq (hgrants affiliations)

theorem licensed_of_type_iff {r : Role} (h : r.type? = some code) :
    Licensed before today r ↔ Listed before today code true := by
  cases r <;> simp_all [Role.type?, Licensed]

/-- An affiliation that adds no role leaves the active types that give one. -/
theorem listed_insert_iff_of_not_adds (h : ¬a.AddsRole (before ++ after) today)
    (hrole : code = "STUDENT" ∨ ∃ r : Role, r.type? = some code) :
    Listed (before ++ a :: after) today code true ↔ Listed (before ++ after) today code true := by
  rw [listed_insert_iff]
  refine or_iff_right_of_imp ?_
  rintro ⟨hcodes, hcode, hactive⟩
  by_contra hnew
  exact h ⟨code, hcodes, hcode, .inl ⟨hactive.1 rfl, hrole, hnew⟩⟩

theorem licensed_insert_iff_of_not_adds (h : ¬a.AddsRole (before ++ after) today) (r : Role) :
    Licensed (before ++ a :: after) today r ↔ Licensed (before ++ after) today r := by
  cases r with
  | student => exact listed_insert_iff_of_not_adds h (.inl rfl)
  | exStudent =>
    have hstudent := listed_insert_iff_of_not_adds h (.inl rfl)
    rw [Licensed, Licensed, hstudent]
    refine and_congr_left fun hended => ⟨?_, Exists.imp fun _ => ?_⟩
    · rintro ⟨active, hlisted⟩
      rcases listed_insert_iff.1 hlisted with ⟨hcodes, hcode, hactive⟩ | hlisted
      · by_contra hnone
        have hinactive : ¬a.ActiveOn today := by
          rw [← hactive]
          rintro rfl
          exact hended (hstudent.1 hlisted)
        exact h ⟨_, hcodes, hcode, .inr ⟨hinactive, rfl, not_exists.1 hnone⟩⟩
      · exact ⟨active, hlisted⟩
    · exact fun hlisted => listed_insert_iff.2 (.inr hlisted)
  | _ =>
    exact exists_congr fun code => and_congr_right fun hcode =>
      listed_insert_iff_of_not_adds h (.inr ⟨_, hcode⟩)

/-- The role that an affiliation adds is one that the others do not give. -/
theorem Affiliation.AddsRole.exists_licensed (h : a.AddsRole (before ++ after) today) :
    ∃ r, Licensed (before ++ a :: after) today r ∧ ¬Licensed (before ++ after) today r := by
  obtain ⟨code, hcodes, hcode, ⟨hactive, hrole, hnew⟩ | ⟨hinactive, rfl, hnone⟩⟩ := h
  · have hlisted : Listed (before ++ a :: after) today code true :=
      listed_insert_iff.2 (.inl ⟨hcodes, hcode, iff_of_true rfl hactive⟩)
    obtain rfl | ⟨r, hr⟩ := hrole
    · exact ⟨.student, hlisted, hnew⟩
    · exact ⟨r, (licensed_of_type_iff hr).2 hlisted, mt (licensed_of_type_iff hr).1 hnew⟩
  · have hlisted : Listed (before ++ a :: after) today "STUDENT" false :=
      listed_insert_iff.2 (.inl ⟨hcodes, hcode, by simp [hinactive]⟩)
    have hended : ¬Listed (before ++ a :: after) today "STUDENT" true := by
      rw [listed_insert_iff]
      rintro (⟨-, -, hactive⟩ | hlisted)
      · exact hinactive (hactive.1 rfl)
      · exact hnone true hlisted
    exact ⟨.exStudent, ⟨⟨false, hlisted⟩, hended⟩, fun hothers => not_exists.2 hnone hothers.1⟩

/-- The roles of a day are others with one more affiliation exactly if that adds a role. -/
theorem classifyAt_insert_ne_iff :
    classifyAt (before ++ a :: after) today ≠ classifyAt (before ++ after) today ↔
      a.AddsRole (before ++ after) today := by
  rw [ne_eq, classifyAt_eq_iff]
  constructor
  · intro hne
    by_contra hadds
    exact hne (licensed_insert_iff_of_not_adds hadds)
  · intro hadds heq
    obtain ⟨r, hr, hothers⟩ := hadds.exists_licensed
    exact hothers ((heq r).1 hr)

end Roles

/-! ### Entries that are no objects -/

section

variable {v : Value} {before after : List Value}

theorem ofArray_insert :
    Affiliation.ofArray (.array (before ++ v :: after)) =
      Affiliation.ofArray (.array before) ++
        ((decode? v : Option Affiliation).toList ++ Affiliation.ofArray (.array after)) := by
  simp only [Affiliation.ofArray, Value.items?, Option.getD_some, List.filterMap_append,
    List.filterMap_cons]
  cases (decode? v : Option Affiliation) <;> rfl

theorem ofArray_append :
    Affiliation.ofArray (.array (before ++ after)) =
      Affiliation.ofArray (.array before) ++ Affiliation.ofArray (.array after) :=
  List.filterMap_append ..

/-- **Which entries of a list of affiliations can be left out.** An entry that is no object can be
left out of the array, so that the affiliations and the roles of every day stay the same, exactly if
it is no array with the members of an affiliation in their order. The roles of a day change exactly
if the affiliation that such an array is read as adds a role to those of the others. -/
theorem ofArray_without_iff (hv : v.members? = none) (before after : List Value) :
    let whole := Affiliation.ofArray (.array (before ++ v :: after))
    let rest := Affiliation.ofArray (.array (before ++ after))
    ((whole = rest ∧ ∀ today, classifyAt whole today = classifyAt rest today) ↔
        ¬ListsAffiliation v) ∧
      ∀ today, classifyAt whole today ≠ classifyAt rest today ↔
        ∃ a : Affiliation, decode? v = some a ∧ a.AddsRole rest today := by
  intro whole rest
  have hlists := isSome_decode?_affiliation hv
  have hwhole : whole = _ := ofArray_insert
  have hrest : rest = _ := ofArray_append
  cases hdecode : (decode? v : Option Affiliation) with
  | none =>
    have hnone : ¬ListsAffiliation v := by simp [← hlists, hdecode]
    rw [hdecode, Option.toList_none, List.nil_append, ← hrest] at hwhole
    simp [hwhole, hnone]
  | some a =>
    have hsome : ListsAffiliation v := hlists.1 (by rw [hdecode]; rfl)
    rw [hdecode, Option.toList_some, List.singleton_append] at hwhole
    constructor
    · refine iff_of_false ?_ (not_not.2 hsome)
      rintro ⟨hsame, -⟩
      have hlength := congrArg List.length hsame
      rw [hwhole, hrest, List.length_append, List.length_append, List.length_cons] at hlength
      omega
    · intro today
      rw [hwhole, hrest, classifyAt_insert_ne_iff]
      simp

end

/-- An instructor, as the student record lists one. -/
def instructorEntry : Value := .object [
  ("status", .object [("code", .string "ACT")]), ("type", .object [("code", .string "INSTRUCTOR")])]

/-- A type with a text in the place of the status is left out. -/
theorem ofArray_without_iff_bareStatus :
    let v := Value.array [.array [.string "STUDENT"], .string "ACT"]
    v.members? = none ∧ ¬ListsAffiliation v ∧
      Affiliation.ofArray (.array [instructorEntry, v, .string "garbage"]) =
        Affiliation.ofArray (.array [instructorEntry, .string "garbage"]) := by
  intro v
  have hnot : ¬ListsAffiliation v := by
    rintro ⟨xs, hxs, -, hkinds⟩
    obtain rfl := Value.array.inj hxs
    rcases hkinds (CodeOrNull, .string "ACT") (by simp) with h | ⟨ms, h, -⟩ | ⟨xs, h, -⟩ <;> cases h
  exact ⟨rfl, hnot, ((ofArray_without_iff rfl [instructorEntry] [.string "garbage"]).1.2 hnot).1⟩

/-- A type and a status, each in an array of its own, are read as an affiliation, and make a student
of the instructor. -/
theorem listedStudent_read :
    let v := Value.array [.array [.string "STUDENT"], .array [.string "ACT"]]
    let today : Date := ⟨2016, 3, 1, by decide⟩
    v.members? = none ∧
      (Affiliation.ofArray (.array [v, instructorEntry])).length = 2 ∧
      (Affiliation.ofArray (.array [instructorEntry])).length = 1 ∧
      (classifyAt (Affiliation.ofArray (.array [v, instructorEntry])) today).get .student = true ∧
      (classifyAt (Affiliation.ofArray (.array [instructorEntry])) today).get .student = false := by
  intro v today
  exact ⟨rfl, rfl, rfl, by decide +kernel, by decide +kernel⟩

end CampusView
