import CampusView.Json.Codec
import CampusView.Proofs.Json.Lexing
import CampusView.Proofs.Json.Members

/-!
# Values read back from their tokens

`Value.sorted` puts the members of all objects of a value in order. A value that nests no deeper
than allowed is read from its text as just that (`readValue_tokens`). `Reads` says the same of a
shape: a record is read if its members are named by the shape, each once, and are read themselves
(`reads_record`).
-/

namespace CampusView.Json

mutual

/-- The value with the members of all its objects in order. -/
def Value.sorted : Value → Value
  | .array xs => .array (sortedItems xs)
  | .object ms => .object (Members.ofList (sortedMembers ms))
  | v => v

/-- The items with the members of all their objects in order. -/
def sortedItems : List Value → List Value
  | [] => []
  | x :: xs => x.sorted :: sortedItems xs

/-- The members with the members of all objects in them in order. -/
def sortedMembers : List (String × Value) → List (String × Value)
  | [] => []
  | (k, v) :: ms => (k, v.sorted) :: sortedMembers ms

end

theorem sortedItems_eq (xs : List Value) : sortedItems xs = xs.map Value.sorted := by
  induction xs with
  | nil => rfl
  | cons x xs ih => rw [sortedItems, ih, List.map_cons]

theorem sortedMembers_eq (ms : Members) :
    sortedMembers ms = ms.map fun m => (m.1, m.2.sorted) := by
  induction ms with
  | nil => rfl
  | cons m ms ih => rw [sortedMembers, ih, List.map_cons]

/-! ### Brackets -/

/-- The tokens do not start by closing an array or object. -/
def Opens (ts : List Token) : Prop := ∀ t ∈ ts.head?, t ≠ .closeArray ∧ t ≠ .closeObject

theorem opens_tokens (v : Value) (ts : List Token) : Opens (v.tokens ++ ts) := by
  cases v <;> exact fun t ht => by obtain rfl := Option.some.inj ht; simp

theorem opens_itemsTokens {xs : List Value} (hne : xs ≠ []) (ts : List Token) :
    Opens (itemsTokens xs ++ ts) := by
  match xs with
  | [] => exact absurd rfl hne
  | [x] => exact opens_tokens x ts
  | x :: y :: xs =>
    rw [itemsTokens, List.append_assoc]
    exact opens_tokens x _

theorem opens_membersTokens {ms : Members} (hne : ms ≠ []) (ts : List Token) :
    Opens (membersTokens ms ++ ts) := by
  match ms with
  | [] => exact absurd rfl hne
  | [(k, v)] => exact fun t ht => by obtain rfl := Option.some.inj ht; simp
  | (k, v) :: m :: ms => exact fun t ht => by obtain rfl := Option.some.inj ht; simp

section Brackets

variable (fuel depth : Nat) {ts : List Token}

theorem readValue_openArray (h : Opens ts) :
    readValue (fuel + 1) (depth + 1) (.openArray :: ts) = (do
      let (xs, r) ← readItems fuel depth ts
      return (.array xs, r)) := by
  cases ts with
  | nil => rfl
  | cons t ts =>
    have ht := (h t rfl).1
    cases t <;> first | rfl | exact absurd rfl ht

theorem readValue_openObject (h : Opens ts) :
    readValue (fuel + 1) (depth + 1) (.openObject :: ts) = (do
      let (ms, r) ← readMembers fuel depth ts
      return (.object (Members.ofList ms), r)) := by
  cases ts with
  | nil => rfl
  | cons t ts =>
    have ht := (h t rfl).2
    cases t <;> first | rfl | exact absurd rfl ht

theorem readShape_openObject (shapes : Layout) (h : Opens ts) :
    readShape (fuel + 1) (depth + 1) (.record shapes) (.openObject :: ts) = (do
      let (ms, r) ← readNamed fuel depth shapes [] ts
      return (.object (Members.ofList ms), r)) := by
  cases ts with
  | nil => rfl
  | cons t ts =>
    have ht := (h t rfl).2
    cases t <;> first | rfl | exact absurd rfl ht

end Brackets

/-! ### Values in full -/

/-- The value is read in full from its tokens. -/
def ReadsInFull (depth : Nat) (v : Value) : Prop :=
  ∀ fuel r, 2 * v.tokens.length ≤ fuel →
    readValue fuel depth (v.tokens ++ r) = .ok (v.sorted, r)

theorem readItems_tokens {depth : Nat} {xs : List Value} (hne : xs ≠ [])
    (h : ∀ x ∈ xs, ReadsInFull depth x) :
    ∀ fuel r, 2 * (itemsTokens xs).length + 1 ≤ fuel →
      readItems fuel depth (itemsTokens xs ++ .closeArray :: r) = .ok (sortedItems xs, r) := by
  induction xs with
  | nil => exact absurd rfl hne
  | cons x xs ih =>
    intro fuel r hfuel
    obtain ⟨fuel, rfl⟩ : ∃ n, fuel = n + 1 := ⟨fuel - 1, by omega⟩
    cases xs with
    | nil =>
      have hx := h x List.mem_cons_self fuel (.closeArray :: r) (by simpa [itemsTokens] using hfuel)
      simp [itemsTokens, readItems, hx, sortedItems, bind, Except.bind, pure, Except.pure]
    | cons y xs =>
      simp only [itemsTokens, List.length_append, List.length_cons] at hfuel
      have hx := h x List.mem_cons_self fuel
        (.comma :: (itemsTokens (y :: xs) ++ .closeArray :: r)) (by omega)
      have hxs := ih (List.cons_ne_nil _ _) (fun z hz => h z (List.mem_cons_of_mem _ hz)) fuel r
        (by omega)
      rw [itemsTokens, List.append_assoc, List.cons_append, readItems, hx]
      simp only [bind, Except.bind, hxs]
      rfl

theorem readMembers_tokens {depth : Nat} {ms : Members} (hne : ms ≠ [])
    (h : ∀ m ∈ ms, ReadsInFull depth m.2) :
    ∀ fuel r, 2 * (membersTokens ms).length + 1 ≤ fuel →
      readMembers fuel depth (membersTokens ms ++ .closeObject :: r) =
        .ok (sortedMembers ms, r) := by
  induction ms with
  | nil => exact absurd rfl hne
  | cons m ms ih =>
    intro fuel r hfuel
    obtain ⟨k, v⟩ := m
    obtain ⟨fuel, rfl⟩ : ∃ n, fuel = n + 1 := ⟨fuel - 1, by omega⟩
    cases ms with
    | nil =>
      simp only [membersTokens, List.length_cons] at hfuel
      have hv := h (k, v) List.mem_cons_self fuel (.closeObject :: r) (by simp only; omega)
      simp [membersTokens, readMembers, hv, sortedMembers, bind, Except.bind, pure, Except.pure]
    | cons m ms =>
      simp only [membersTokens, List.length_append, List.length_cons] at hfuel
      have hv := h (k, v) List.mem_cons_self fuel
        (.comma :: (membersTokens (m :: ms) ++ .closeObject :: r)) (by simp only; omega)
      have hms := ih (List.cons_ne_nil _ _) (fun z hz => h z (List.mem_cons_of_mem _ hz)) fuel r
        (by omega)
      simp only [membersTokens, List.cons_append, List.append_assoc, readMembers, hv, bind,
        Except.bind, hms]
      rfl

/-- A value is read back from its tokens, with all members in order. -/
theorem readValue_tokens {depth : Nat} {v : Value} (h : v.Fits depth) : ReadsInFull depth v := by
  induction h with
  | null | bool | number | string =>
    rintro (_ | fuel) r hfuel
    · simp [Value.tokens] at hfuel
    · rfl
  | @array depth xs _ ih =>
    intro fuel r hfuel
    simp only [Value.tokens, List.length_append, List.length_cons, List.length_nil] at hfuel
    obtain ⟨fuel, rfl⟩ : ∃ n, fuel = n + 1 := ⟨fuel - 1, by omega⟩
    simp only [Value.tokens, List.cons_append, List.append_assoc, List.nil_append]
    rcases eq_or_ne xs [] with rfl | hne
    · rfl
    · rw [readValue_openArray _ _ (opens_itemsTokens hne _),
        readItems_tokens hne ih fuel r (by omega)]
      rfl
  | @object depth ms _ ih =>
    intro fuel r hfuel
    simp only [Value.tokens, List.length_append, List.length_cons, List.length_nil] at hfuel
    obtain ⟨fuel, rfl⟩ : ∃ n, fuel = n + 1 := ⟨fuel - 1, by omega⟩
    simp only [Value.tokens, List.cons_append, List.append_assoc, List.nil_append]
    rcases eq_or_ne ms [] with rfl | hne
    · rfl
    · rw [readValue_openObject _ _ (opens_membersTokens hne _),
        readMembers_tokens hne ih fuel r (by omega)]
      rfl

/-! ### Values of a shape -/

/-- The value is read under the shape from its tokens, within `slack` steps more than two for each
token. -/
def Reads (slack : Nat) (shape : Shape) (depth : Nat) (v : Value) : Prop :=
  ∀ fuel r, 2 * v.tokens.length + slack ≤ fuel →
    readShape fuel depth shape (v.tokens ++ r) = .ok (v.sorted, r)

theorem Reads.mono {slack slack' depth : Nat} {shape : Shape} {v : Value}
    (h : Reads slack shape depth v) (hle : slack ≤ slack') : Reads slack' shape depth v :=
  fun fuel r hfuel => h fuel r (by omega)

theorem tokens_pos (v : Value) : 0 < v.tokens.length := by
  cases v <;> simp [Value.tokens]

theorem reads_any {depth : Nat} {v : Value} (h : v.Fits depth) : Reads 0 .any depth v := by
  intro fuel r hfuel
  have hpos := tokens_pos v
  obtain ⟨fuel, rfl⟩ : ∃ n, fuel = n + 1 := ⟨fuel - 1, by omega⟩
  exact readValue_tokens h (fuel + 1) r hfuel

theorem reads_text (depth : Nat) (s : String) : Reads 0 .text depth (.string s) := by
  rintro (_ | fuel) r hfuel
  · simp [Value.tokens] at hfuel
  · rfl

theorem reads_null (inner : Shape) (depth : Nat) : Reads 0 (.optional inner) depth .null := by
  rintro (_ | fuel) r hfuel
  · simp [Value.tokens] at hfuel
  · rfl

theorem reads_optional {slack depth : Nat} {inner : Shape} {v : Value} (hv : v ≠ .null)
    (h : Reads slack inner depth v) : Reads (slack + 1) (.optional inner) depth v := by
  intro fuel r hfuel
  obtain ⟨fuel, rfl⟩ : ∃ n, fuel = n + 1 := ⟨fuel - 1, by omega⟩
  rw [← h fuel r (by omega)]
  cases v <;> first | rfl | exact absurd rfl hv

/-- Members that the shape names, each once, are read one after another. -/
theorem readNamed_tokens {depth : Nat} {shapes : Layout} {ms : Members} (hne : ms ≠ [])
    (h : ∀ m ∈ ms, ∃ shape, shapes.lookup m.1 = some shape ∧ Reads 2 shape depth m.2) :
    ∀ seen fuel r, (seen ++ ms.map Prod.fst).Nodup → 2 * (membersTokens ms).length + 1 ≤ fuel →
      readNamed fuel depth shapes seen (membersTokens ms ++ .closeObject :: r) =
        .ok (sortedMembers ms, r) := by
  induction ms with
  | nil => exact absurd rfl hne
  | cons m ms ih =>
    intro seen fuel r hnodup hfuel
    obtain ⟨k, v⟩ := m
    obtain ⟨fuel, rfl⟩ : ∃ n, fuel = n + 1 := ⟨fuel - 1, by omega⟩
    obtain ⟨shape, hshape, hread⟩ : ∃ shape, shapes.lookup k = some shape ∧
      Reads 2 shape depth v := h (k, v) List.mem_cons_self
    -- no name comes twice, so this one was not seen before
    have hnew : seen.contains k = false := by
      have := (List.nodup_append.1 hnodup).2.2
      simp only [List.contains_eq_mem, decide_eq_false_iff_not]
      exact fun hk => this k hk k (by simp) rfl
    cases ms with
    | nil =>
      simp only [membersTokens, List.length_cons] at hfuel
      have hv := hread fuel (.closeObject :: r) (by omega)
      simp only [membersTokens, List.cons_append, readNamed, hnew, hshape, hv, bind, Except.bind,
        Bool.false_eq_true, if_false]
      rfl
    | cons m ms =>
      simp only [membersTokens, List.length_append, List.length_cons] at hfuel
      have hv := hread fuel (.comma :: (membersTokens (m :: ms) ++ .closeObject :: r)) (by omega)
      have hnodup' : (k :: seen ++ (m :: ms).map Prod.fst).Nodup := by
        refine (List.Perm.nodup_iff ?_).1 hnodup
        exact List.perm_middle
      have hms := ih (List.cons_ne_nil _ _) (fun z hz => h z (List.mem_cons_of_mem _ hz))
        (k :: seen) fuel r hnodup' (by omega)
      simp only [membersTokens, List.cons_append, List.append_assoc, readNamed, hnew, hshape, hv,
        bind, Except.bind, hms, Bool.false_eq_true, if_false]
      rfl

theorem reads_record {depth : Nat} {shapes : Layout} {ms : Members}
    (hnames : (ms.map Prod.fst).Nodup)
    (h : ∀ m ∈ ms, ∃ shape, shapes.lookup m.1 = some shape ∧ Reads 2 shape depth m.2) :
    Reads 0 (.record shapes) (depth + 1) (.object ms) := by
  intro fuel r hfuel
  simp only [Value.tokens, List.length_append, List.length_cons, List.length_nil] at hfuel
  obtain ⟨fuel, rfl⟩ : ∃ n, fuel = n + 1 := ⟨fuel - 1, by omega⟩
  simp only [Value.tokens, List.cons_append, List.append_assoc, List.nil_append]
  rcases eq_or_ne ms [] with rfl | hne
  · rfl
  · rw [readShape_openObject _ _ _ (opens_membersTokens hne _),
      readNamed_tokens hne h [] fuel r (by simpa using hnames) (by omega)]
    rfl

/-! ### Texts -/

/-- A text is read back as the value it was written from, with all members in order. -/
theorem read_toText {shape : Shape} {v : Value} (hfits : v.Fits maxDepth)
    (h : Reads 2 shape maxDepth v) : read shape v.toText = .ok v.sorted := by
  have hread := h (2 * v.tokens.length + 2) [] (Nat.le_refl _)
  rw [List.append_nil] at hread
  simp only [read, tokens_toText hfits, hread, bind, Except.bind]
  rfl

theorem decodeText?_encodeText {α : Type} [Encode α] [Decode α] {x : α}
    (hfits : (encode x).Fits maxDepth) (h : Reads 2 (Decode.shape α) maxDepth (encode x)) :
    (decodeText? (encodeText x) : Option α) = decode? (encode x).sorted := by
  rw [decodeText?, encodeText, read_toText hfits h]
  rfl

end CampusView.Json
