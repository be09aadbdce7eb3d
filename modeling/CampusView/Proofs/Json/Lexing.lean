import CampusView.Json.Printer
import CampusView.Proofs.Json.NumberText

/-!
# The tokens of a value

`Value.tokens` lists the tokens of a value, and the text of a value whose numbers are read back is
cut into just these (`tokens_toText`). The numbers of a text are read back (`ExactTokens`) if they
are integers or doubles of few digits (`exactTokens_of_short`).
-/

namespace CampusView.Json

/-! ### Strings -/

theorem hexQuad?_hexDigit :
    ∀ n < 32, hexQuad? '0' '0' (hexDigit (n / 16)) (hexDigit (n % 16)) = some n := by
  decide

/-- A character is scanned back from its escape. -/
theorem stringPieces_escapeChar (acc : List Piece) (c : Char) (r : List Char) :
    stringPieces acc (escapeChar c ++ r) = stringPieces (.inl c :: acc) r := by
  unfold escapeChar
  split
  · next h => subst h; rfl
  split
  · next h => subst h; rfl
  split
  · next h => subst h; rfl
  split
  · next h => subst h; rfl
  split
  · next h => subst h; rfl
  split
  · next h => subst h; rfl
  split
  · next h => subst h; rfl
  split
  · next h =>
    have hlt : c.toNat < 32 := h
    have hhigh : (isHighSurrogate c.toNat || isLowSurrogate c.toNat) = false := by
      simp [isHighSurrogate, isLowSurrogate]
      omega
    simp only [List.cons_append, List.nil_append]
    rw [stringPieces]
    simp only [hexQuad?_hexDigit _ hlt, hhigh, Bool.false_eq_true, if_false, Char.ofNat_toNat]
  · rw [List.singleton_append, stringPieces.eq_def]
    split <;> simp_all

theorem stringPieces_flatMap (acc : List Piece) (cs r : List Char) :
    stringPieces acc (cs.flatMap escapeChar ++ '"' :: r) =
      some (acc.reverse ++ cs.map .inl, r) := by
  induction cs generalizing acc with
  | nil => simp [stringPieces]
  | cons c cs ih =>
    rw [List.flatMap_cons, List.append_assoc, stringPieces_escapeChar, ih]
    simp

theorem joinPieces_inl (acc cs : List Char) :
    joinPieces acc (cs.map .inl) = some (acc.reverse ++ cs) := by
  induction cs generalizing acc with
  | nil => simp [joinPieces]
  | cons c cs ih =>
    rw [List.map_cons, joinPieces, ih]
    simp

theorem scanToken_stringChars (s : String) (r : List Char) :
    scanToken (stringChars s ++ r) = some (.string (some s), r) := by
  have h := stringPieces_flatMap [] s.toList r
  simp only [List.reverse_nil, List.nil_append] at h
  simp [stringChars, scanToken, scanString, h, joinPieces_inl]

/-! ### Numbers -/

theorem head_toChars (n : Number) (r : List Char) :
    ∃ c cs, n.toChars ++ r = c :: cs ∧ (c = '-' ∨ isDigit c) := by
  rw [← Number.toChars_literal, Literal.toChars]
  cases n.literal.negative with
  | true => exact ⟨_, _, rfl, .inl rfl⟩
  | false =>
    rcases (Number.wellFormed_literal n).whole with h | ⟨c, cs, h, -, hd, -⟩
    · rw [h]
      exact ⟨_, _, rfl, .inr rfl⟩
    · rw [h]
      exact ⟨_, _, rfl, .inr hd⟩

theorem scanToken_number {n : Number} (hn : n.ReadsBack) {r : List Char} (hr : EndsNumber r) :
    scanToken (n.toChars ++ r) = some (.number (some n), r) := by
  rw [← Number.scanNumber_toChars hn hr]
  obtain ⟨c, cs, h, hc⟩ := head_toChars n r
  rw [h]
  unfold scanToken
  split <;> first | rfl | (next heq => cases heq; simp [isDigit] at hc)

/-! ### Values -/

mutual

/-- The tokens of a value. -/
def Value.tokens : Value → List Token
  | .null => [.null]
  | .bool b => [.bool b]
  | .number n => [.number (some n)]
  | .string s => [.string (some s)]
  | .array xs => .openArray :: itemsTokens xs ++ [.closeArray]
  | .object ms => .openObject :: membersTokens ms ++ [.closeObject]

/-- The tokens of items with commas between them. -/
def itemsTokens : List Value → List Token
  | [] => []
  | [x] => x.tokens
  | x :: y :: xs => x.tokens ++ .comma :: itemsTokens (y :: xs)

/-- The tokens of members with commas between them. -/
def membersTokens : List (String × Value) → List Token
  | [] => []
  | [(k, v)] => .string (some k) :: .colon :: v.tokens
  | (k, v) :: m :: ms =>
    .string (some k) :: .colon :: v.tokens ++ .comma :: membersTokens (m :: ms)

end

/-- The value nests at most this deep, and its numbers are read back. -/
inductive Value.Fits : Nat → Value → Prop
  | null {d : Nat} : Fits d .null
  | bool {d : Nat} (b : Bool) : Fits d (.bool b)
  | number {d : Nat} {n : Number} (h : n.ReadsBack) : Fits d (.number n)
  | string {d : Nat} (s : String) : Fits d (.string s)
  | array {d : Nat} {xs : List Value} (h : ∀ x ∈ xs, Fits d x) : Fits (d + 1) (.array xs)
  | object {d : Nat} {ms : Members} (h : ∀ m ∈ ms, Fits d m.2) : Fits (d + 1) (.object ms)

theorem Value.Fits.mono {d d' : Nat} {v : Value} (h : v.Fits d) (hle : d ≤ d') : v.Fits d' := by
  induction h generalizing d' with
  | null => exact .null
  | bool b => exact .bool b
  | number h => exact .number h
  | string s => exact .string s
  | array _ ih =>
    obtain ⟨e, rfl⟩ := Nat.exists_eq_add_of_le' (Nat.le_trans (Nat.le_add_left 1 _) hle)
    exact .array fun x hx => ih x hx (Nat.le_of_succ_le_succ hle)
  | object _ ih =>
    obtain ⟨e, rfl⟩ := Nat.exists_eq_add_of_le' (Nat.le_trans (Nat.le_add_left 1 _) hle)
    exact .object fun m hm => ih m hm (Nat.le_of_succ_le_succ hle)

theorem tokensWithin_cons {c : Char} {cs r : List Char} {t : Token}
    (h : scanToken (c :: cs) = some (t, r)) (hc : isSpace c = false) (fuel : Nat) :
    tokensWithin (fuel + 1) (c :: cs) = t :: tokensWithin fuel r := by
  rw [tokensWithin, List.dropWhile_cons_of_neg (by simp [hc])]
  simp only [h]

@[simp] theorem tokensWithin_nil (fuel : Nat) : tokensWithin fuel [] = [] := by
  cases fuel <;> rfl

theorem endsNumber_cons {c : Char} (h : c ∈ [',', ']', '\x7d']) (r : List Char) :
    EndsNumber (c :: r) := by
  rintro d hd
  obtain rfl : c = d := Option.some.inj hd
  simp only [List.mem_cons, List.not_mem_nil, or_false] at h
  rcases h with rfl | rfl | rfl <;> decide

/-- The text `cs` is cut into the tokens `ts`, whatever follows it. -/
structure LexesAs (cs : List Char) (ts : List Token) : Prop where
  length_le : ts.length ≤ cs.length
  run : ∀ r fuel, EndsNumber r →
    tokensWithin (ts.length + fuel) (cs ++ r) = ts ++ tokensWithin fuel r

theorem lexesAs_nil : LexesAs [] [] := ⟨Nat.le_refl _, fun r fuel _ => by simp⟩

/-- A single token. -/
theorem lexesAs_singleton {c : Char} {cs : List Char} {t : Token} (hc : isSpace c = false)
    (h : ∀ r, EndsNumber r → scanToken (c :: cs ++ r) = some (t, r)) : LexesAs (c :: cs) [t] := by
  refine ⟨by simp, fun r fuel hr => ?_⟩
  rw [List.length_singleton, Nat.add_comm]
  exact tokensWithin_cons (h r hr) hc fuel

/-- Two texts one after the other. What follows the first does not go on with a number. -/
theorem LexesAs.append {cs ds : List Char} {ts us : List Token} (h : LexesAs cs ts)
    (h' : LexesAs ds us) (hd : ∀ r, EndsNumber r → EndsNumber (ds ++ r)) :
    LexesAs (cs ++ ds) (ts ++ us) := by
  refine ⟨?_, fun r fuel hr => ?_⟩
  · rw [List.length_append, List.length_append]
    exact Nat.add_le_add h.length_le h'.length_le
  · rw [List.length_append, Nat.add_assoc, List.append_assoc, h.run _ _ (hd r hr), h'.run _ _ hr,
      List.append_assoc]

/-- A single character that is a token, and then more. -/
theorem LexesAs.cons {c : Char} {t : Token} {cs : List Char} {ts : List Token}
    (h : LexesAs cs ts) (ht : ∀ r, scanToken (c :: r) = some (t, r)) (hc : isSpace c = false) :
    LexesAs (c :: cs) (t :: ts) := by
  refine ⟨Nat.succ_le_succ h.length_le, fun r fuel hr => ?_⟩
  rw [List.length_cons, Nat.add_right_comm, List.cons_append, tokensWithin_cons (ht _) hc,
    h.run r fuel hr]
  rfl

theorem lexesAs_number {n : Number} (hn : n.ReadsBack) :
    LexesAs n.toChars [.number (some n)] := by
  obtain ⟨c, cs, h, hc⟩ := head_toChars n []
  rw [List.append_nil] at h
  have hspace : isSpace c = false := by
    rcases hc with rfl | hd
    · rfl
    · refine Bool.eq_false_iff.2 fun hs => ?_
      simp only [isSpace, Bool.or_eq_true, decide_eq_true_eq] at hs
      rcases hs with ((rfl | rfl) | rfl) | rfl <;> exact absurd hd (by decide)
  rw [h]
  refine lexesAs_singleton hspace fun r hr => ?_
  rw [← h]
  exact scanToken_number hn hr

theorem lexesAs_string (s : String) : LexesAs (stringChars s) [.string (some s)] :=
  lexesAs_singleton rfl fun r _ => scanToken_stringChars s r

/-! ### Items and members -/

theorem lexesAs_comma {cs : List Char} {ts : List Token} (h : LexesAs cs ts) :
    LexesAs (',' :: cs) (.comma :: ts) := h.cons (fun _ => rfl) rfl

theorem lexesAs_items {xs : List Value} (h : ∀ x ∈ xs, LexesAs x.toChars x.tokens) :
    LexesAs (itemsChars xs) (itemsTokens xs) := by
  induction xs with
  | nil => exact lexesAs_nil
  | cons x xs ih =>
    cases xs with
    | nil => exact h x (by simp)
    | cons y xs =>
      exact (h x (by simp)).append (lexesAs_comma (ih fun z hz => h z (by simp [hz])))
        fun r _ => endsNumber_cons (by simp) _

theorem lexesAs_member (k : String) {v : Value} (h : LexesAs v.toChars v.tokens) :
    LexesAs (stringChars k ++ ':' :: v.toChars) (.string (some k) :: .colon :: v.tokens) := by
  have hcolon : LexesAs (':' :: v.toChars) (.colon :: v.tokens) := h.cons (fun _ => rfl) rfl
  refine ⟨?_, fun r fuel hr => ?_⟩
  · have := Nat.add_le_add (lexesAs_string k).length_le hcolon.length_le
    rw [List.length_append]
    rwa [List.length_singleton, Nat.add_comm] at this
  -- a string is a token whatever follows it, a colon too
  · have hk := tokensWithin_cons (scanToken_stringChars k (':' :: v.toChars ++ r)) rfl
      ((Token.colon :: v.tokens).length + fuel)
    rw [List.length_cons, Nat.add_right_comm, List.append_assoc]
    exact hk.trans (congrArg _ (hcolon.run r fuel hr))

theorem lexesAs_members {ms : Members} (h : ∀ m ∈ ms, LexesAs m.2.toChars m.2.tokens) :
    LexesAs (membersChars ms) (membersTokens ms) := by
  induction ms with
  | nil => exact lexesAs_nil
  | cons m ms ih =>
    obtain ⟨k, v⟩ := m
    have hv := lexesAs_member k (h (k, v) (by simp))
    cases ms with
    | nil => exact hv
    | cons m ms =>
      exact hv.append (lexesAs_comma (ih fun z hz => h z (by simp [hz])))
        fun r _ => endsNumber_cons (by simp) _

/-! ### Values -/

/-- A value is cut into its tokens. -/
theorem lexesAs_value {d : Nat} {v : Value} (h : v.Fits d) : LexesAs v.toChars v.tokens := by
  induction h with
  | null => exact lexesAs_singleton rfl fun _ _ => rfl
  | bool b => cases b <;> exact lexesAs_singleton rfl fun _ _ => rfl
  | number h => exact lexesAs_number h
  | string s => exact lexesAs_string s
  | array _ ih =>
    have hclose : LexesAs [']'] [.closeArray] := lexesAs_nil.cons (fun _ => rfl) rfl
    exact ((lexesAs_items ih).append hclose fun r _ => endsNumber_cons (by simp) r).cons
      (fun _ => rfl) rfl
  | object _ ih =>
    have hclose : LexesAs ['\x7d'] [.closeObject] := lexesAs_nil.cons (fun _ => rfl) rfl
    exact ((lexesAs_members ih).append hclose fun r _ => endsNumber_cons (by simp) r).cons
      (fun _ => rfl) rfl

/-- The tokens of the text of a value are the tokens of the value. -/
theorem tokens_toText {d : Nat} {v : Value} (h : v.Fits d) : tokens v.toText = v.tokens := by
  obtain ⟨hlen, hrun⟩ := lexesAs_value h
  have hfuel : v.toChars.length = v.tokens.length + (v.toChars.length - v.tokens.length) := by
    omega
  have hall := hrun [] (v.toChars.length - v.tokens.length) endsNumber_nil
  rw [List.append_nil, tokensWithin_nil, List.append_nil, ← hfuel] at hall
  rw [tokens, Value.toText, String.toList_ofList]
  exact hall

/-! ### Numbers among the tokens -/

/-- A number that is read back, or another token. -/
def Token.ReadsBack : Token → Prop
  | .number (some n) => n.ReadsBack
  | _ => True

instance : (t : Token) → Decidable t.ReadsBack
  | .number (some n) => inferInstanceAs (Decidable n.ReadsBack)
  | .number none | .openArray | .closeArray | .openObject | .closeObject | .comma | .colon
  | .null | .bool _ | .string _ | .stuck => isTrue trivial

/-- All numbers among the tokens are read back. -/
def ExactTokens (ts : List Token) : Prop := ∀ t ∈ ts, t.ReadsBack

instance (ts : List Token) : Decidable (ExactTokens ts) := List.decidableBAll _ _

/-- A short number, or another token. -/
def Token.Short : Token → Prop
  | .number (some n) => n.Short
  | _ => True

instance : (t : Token) → Decidable t.Short
  | .number (some n) => inferInstanceAs (Decidable n.Short)
  | .number none | .openArray | .closeArray | .openObject | .closeObject | .comma | .colon
  | .null | .bool _ | .string _ | .stuck => isTrue trivial

/-- A number that was scanned was read from a literal. -/
theorem ofLiteral?_of_scanNumber {cs r : List Char} {n : Number}
    (h : scanNumber cs = some (.number (some n), r)) : ∃ l, Number.ofLiteral? l = some n := by
  unfold scanNumber at h
  dsimp only at h
  obtain ⟨⟨whole, cs₁⟩, -, h⟩ := Option.bind_eq_some_iff.1 h
  obtain ⟨⟨fraction, cs₂⟩, -, h⟩ := Option.bind_eq_some_iff.1 h
  obtain ⟨⟨power, cs₃⟩, -, h⟩ := Option.bind_eq_some_iff.1 h
  injection congrArg Prod.fst (Option.some.inj h) with hread
  exact ⟨_, hread⟩

theorem ofLiteral?_of_scanToken {cs r : List Char} {n : Number}
    (h : scanToken cs = some (.number (some n), r)) : ∃ l, Number.ofLiteral? l = some n := by
  unfold scanToken at h
  split at h
  case h_7 => simp [scanString] at h
  case h_11 => exact ofLiteral?_of_scanNumber h
  all_goals cases h

/-- A token that was scanned is read back if it is short. -/
theorem Token.readsBack_of_scanToken {cs r : List Char} {t : Token}
    (h : scanToken cs = some (t, r)) (hshort : t.Short) : t.ReadsBack := by
  cases t with
  | number n? =>
    cases n? with
    | none => trivial
    | some n =>
      obtain ⟨l, hl⟩ := ofLiteral?_of_scanToken h
      exact Number.readsBack_of_ofLiteral? hl hshort
  | _ => trivial

/-- **Short numbers are exact.** All numbers among the tokens of a text are read back if they are
integers or doubles of few digits. -/
theorem exactTokens_of_short {text : String} (h : ∀ t ∈ tokens text, t.Short) :
    ExactTokens (tokens text) := by
  suffices hscanned : ∀ fuel cs, ∀ t ∈ tokensWithin fuel cs, t.Short → t.ReadsBack from
    fun t ht => hscanned _ _ t ht (h t ht)
  intro fuel
  induction fuel with
  | zero => exact fun cs t ht => absurd ht List.not_mem_nil
  | succ fuel ih =>
    intro cs t ht hshort
    rw [tokensWithin] at ht
    split at ht
    · cases ht
    · split at ht
      · next hscan =>
        rcases List.mem_cons.1 ht with rfl | ht
        · exact Token.readsBack_of_scanToken hscan hshort
        · exact ih _ t ht hshort
      · obtain rfl := List.mem_singleton.1 ht
        trivial

theorem exactTokens_items {xs : List Value} (h : ∀ x ∈ xs, ExactTokens x.tokens) :
    ExactTokens (itemsTokens xs) := by
  induction xs with
  | nil => exact fun t ht => absurd ht List.not_mem_nil
  | cons x xs ih =>
    cases xs with
    | nil => exact h x List.mem_cons_self
    | cons y xs =>
      refine List.forall_mem_append.2 ⟨h x List.mem_cons_self, ?_⟩
      exact List.forall_mem_cons.2 ⟨trivial, ih fun z hz => h z (List.mem_cons_of_mem _ hz)⟩

theorem exactTokens_members {ms : Members} (h : ∀ m ∈ ms, ExactTokens m.2.tokens) :
    ExactTokens (membersTokens ms) := by
  induction ms with
  | nil => exact fun t ht => absurd ht List.not_mem_nil
  | cons m ms ih =>
    have hm : ExactTokens (.string (some m.1) :: .colon :: m.2.tokens) :=
      List.forall_mem_cons.2 ⟨trivial, List.forall_mem_cons.2 ⟨trivial, h m List.mem_cons_self⟩⟩
    cases ms with
    | nil => exact hm
    | cons n ms =>
      refine List.forall_mem_append.2 ⟨hm, ?_⟩
      exact List.forall_mem_cons.2 ⟨trivial, ih fun z hz => h z (List.mem_cons_of_mem _ hz)⟩

/-- The numbers of a value that fits are read back among its tokens. -/
theorem Value.Fits.exactTokens {d : Nat} {v : Value} (h : v.Fits d) : ExactTokens v.tokens := by
  induction h with
  | null | bool | string => exact List.forall_mem_singleton.2 trivial
  | number h => exact List.forall_mem_singleton.2 h
  | array _ ih =>
    refine List.forall_mem_append.2 ⟨List.forall_mem_cons.2 ⟨trivial, exactTokens_items ih⟩, ?_⟩
    exact List.forall_mem_singleton.2 trivial
  | object _ ih =>
    refine List.forall_mem_append.2 ⟨List.forall_mem_cons.2 ⟨trivial, exactTokens_members ih⟩, ?_⟩
    exact List.forall_mem_singleton.2 trivial

end CampusView.Json
