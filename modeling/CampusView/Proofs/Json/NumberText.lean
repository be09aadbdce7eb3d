import CampusView.Proofs.Json.FewDigits

/-!
# Numbers read back from their text

Every text of a number is the text of a literal (`Number.literal`), and a literal is scanned up to
the first character that cannot belong to it (`scanNumber_literal`). The number that is read then
need not be the one that was written. If it is, the number `ReadsBack`: integers do
(`readsBack_int`), and doubles of few digits that were read themselves
(`readsBack_of_ofLiteral?`).
-/

namespace CampusView.Json

/-! ### Scanning a literal -/

/-- The text goes on with no character of a number. -/
def EndsNumber (r : List Char) : Prop := ∀ c ∈ r.head?, isDigit c = false ∧ c ∉ ['.', 'e', 'E']

theorem endsNumber_nil : EndsNumber [] := by simp [EndsNumber]

/-- No digit follows. -/
def EndsDigits (r : List Char) : Prop := ∀ c ∈ r.head?, isDigit c = false

theorem EndsNumber.endsDigits {r : List Char} (h : EndsNumber r) : EndsDigits r :=
  fun c hc => (h c hc).1

theorem takeWhile_digits {ds r : List Char} (hd : ds.all isDigit) (hr : EndsDigits r) :
    (ds ++ r).takeWhile isDigit = ds ∧ (ds ++ r).dropWhile isDigit = r := by
  rw [List.all_eq_true] at hd
  rw [List.takeWhile_append_of_pos hd, List.dropWhile_append_of_pos hd]
  cases r with
  | nil => simp
  | cons c r => simp [hr c rfl]

namespace Literal

/-- Digits that start with no zero, or a zero alone. -/
def IsWhole (ds : List Char) : Prop := ds = ['0'] ∨ Number.Leading ds

/-- The digits of a literal are as JSON has them. -/
structure WellFormed (l : Literal) : Prop where
  whole : IsWhole l.whole
  fraction : ∀ ds ∈ l.fraction, ds ≠ [] ∧ ds.all isDigit

/-- The sign of a literal. -/
def signChars (negative : Bool) : List Char := if negative then ['-'] else []

/-- The fraction of a literal. -/
def fractionChars : Option (List Char) → List Char
  | none => []
  | some ds => '.' :: ds

/-- The exponent of a literal. -/
def powerChars : Option Int → List Char
  | none => []
  | some p => 'e' :: (if p < 0 then '-' else '+') :: Number.natChars p.natAbs

/-- The text of a literal. -/
def toChars (l : Literal) : List Char :=
  signChars l.negative ++ (l.whole ++ (fractionChars l.fraction ++ powerChars l.power))

/-- The decimal that a literal stands for. -/
def decimal (l : Literal) : Decimal :=
  ⟨Number.ofDigits (l.whole ++ l.fraction.getD []),
    l.power.getD 0 - (l.fraction.getD []).length⟩

/-- The literal has less than 53 bits of digits, and a power of ten up to the 22nd. -/
structure Short (l : Literal) : Prop where
  digits : l.decimal.digits < 2 * Binary64.hidden
  exponent : -22 ≤ l.decimal.exponent ∧ l.decimal.exponent ≤ 22

instance (l : Literal) : Decidable l.Short :=
  decidable_of_iff (l.decimal.digits < 2 * Binary64.hidden ∧
    -22 ≤ l.decimal.exponent ∧ l.decimal.exponent ≤ 22) ⟨fun h => ⟨h.1, h.2⟩, fun h => ⟨h.1, h.2⟩⟩

theorem scanWhole_append {ds r : List Char} (hd : IsWhole ds) (hr : EndsDigits r) :
    scanWhole (ds ++ r) = some (ds, r) := by
  rcases hd with rfl | ⟨c, cs, rfl, hc, hdig, hcs⟩
  · cases r with
    | nil => rfl
    | cons d r =>
      have hno : isDigit d = false := hr d rfl
      simp [scanWhole, hno]
  · have hall : (c :: cs).all isDigit := by rw [List.all_cons, hdig, hcs]; rfl
    obtain ⟨ht, hdrop⟩ := takeWhile_digits hall hr
    unfold scanWhole
    split
    · next heq => exact absurd (List.cons.inj heq).1 hc
    · simp only [ht, hdrop, List.isEmpty_cons, Bool.false_eq_true, if_false]

theorem scanFraction_append {fraction : Option (List Char)} {r : List Char}
    (hd : ∀ ds ∈ fraction, ds ≠ [] ∧ ds.all isDigit) (hr : EndsDigits r)
    (hpoint : fraction = none → r.head? ≠ some '.') :
    scanFraction (fractionChars fraction ++ r) = some (fraction, r) := by
  cases fraction with
  | none =>
    rw [fractionChars, List.nil_append]
    unfold scanFraction
    split
    · exact absurd rfl (hpoint rfl)
    · rfl
  | some ds =>
    obtain ⟨hne, hall⟩ := hd ds rfl
    obtain ⟨ht, hdrop⟩ := takeWhile_digits hall hr
    simp [fractionChars, scanFraction, ht, hdrop, hne]

theorem endsDigits_powerChars {power : Option Int} {r : List Char} (hr : EndsDigits r) :
    EndsDigits (powerChars power ++ r) := by
  cases power with
  | none => exact hr
  | some p =>
    rintro c hc
    obtain rfl : 'e' = c := Option.some.inj hc
    rfl

theorem all_isDigit_natChars (n : Nat) : (Number.natChars n).all isDigit :=
  List.all_eq_true.2 fun _ hc => Number.isDigit_of_mem_natChars hc

theorem scanPower_append {power : Option Int} {r : List Char} (hr : EndsNumber r) :
    scanPower (powerChars power ++ r) = some (power, r) := by
  cases power with
  | none =>
    cases r with
    | nil => rfl
    | cons c r =>
      have he : ¬(c = 'e' ∨ c = 'E') := fun h => (hr c rfl).2 (by rcases h with rfl | rfl <;> simp)
      rw [powerChars, List.nil_append, scanPower, if_neg he]
  | some p =>
    obtain ⟨ht, hdrop⟩ := takeWhile_digits (all_isDigit_natChars p.natAbs) hr.endsDigits
    by_cases hp : p < 0
    · have hneg : -|p| = p := by rw [abs_of_neg hp, neg_neg]
      simp [powerChars, hp, scanPower, scanSign, ht, hdrop, hneg]
    · have hpos : (p.natAbs : Int) = p := by omega
      simp [powerChars, hp, scanPower, scanSign, ht, hdrop, hpos]

/-- After its sign a literal is scanned part by part. -/
theorem scanNumber_sign (negative : Bool) {cs : List Char} (h : cs.head? ≠ some '-') :
    scanNumber (signChars negative ++ cs) = (scanWhole cs).bind fun w =>
      (scanFraction w.2).bind fun f => (scanPower f.2).bind fun p =>
        some (.number (Number.ofLiteral? ⟨negative, w.1, f.1, p.1⟩), p.2) := by
  cases negative with
  | true => rfl
  | false =>
    cases cs with
    | nil => rfl
    | cons c cs =>
      have hc : c ≠ '-' := fun hc => h (by rw [hc]; rfl)
      unfold scanNumber
      split
      next neg r heq =>
      split at heq
      · next heq' => exact absurd (List.cons.inj heq').1 hc
      · obtain ⟨rfl, rfl⟩ := Prod.mk.inj heq
        rfl

theorem head_ne_minus {ds r : List Char} (hd : IsWhole ds) : (ds ++ r).head? ≠ some '-' := by
  rcases hd with rfl | ⟨c, cs, rfl, -, hdig, -⟩
  · exact fun h => absurd (Option.some.inj h) (by decide)
  · intro h
    rw [Option.some.inj h] at hdig
    exact absurd hdig (by decide)

/-- A literal is scanned as a whole. -/
theorem scanNumber_literal {l : Literal} (hl : l.WellFormed) {r : List Char} (hr : EndsNumber r) :
    scanNumber (l.toChars ++ r) = some (.number (Number.ofLiteral? l), r) := by
  obtain ⟨negative, whole, fraction, power⟩ := l
  have hafter : EndsDigits (fractionChars fraction ++ (powerChars power ++ r)) := by
    cases fraction with
    | none => exact endsDigits_powerChars hr.endsDigits
    | some ds =>
      rintro c hc
      obtain rfl : '.' = c := Option.some.inj hc
      rfl
  have hpoint : fraction = none → (powerChars power ++ r).head? ≠ some '.' := by
    rintro - hc
    cases power with
    | none => exact (hr '.' hc).2 (by simp)
    | some p => exact absurd (Option.some.inj hc) (by decide)
  have hassoc : toChars ⟨negative, whole, fraction, power⟩ ++ r =
      signChars negative ++ (whole ++ (fractionChars fraction ++ (powerChars power ++ r))) := by
    simp [toChars]
  rw [hassoc, scanNumber_sign negative (head_ne_minus hl.whole), scanWhole_append hl.whole hafter,
    Option.bind_some, scanFraction_append hl.fraction (endsDigits_powerChars hr.endsDigits) hpoint,
    Option.bind_some, scanPower_append hr, Option.bind_some]

end Literal

/-! ### The literal of a number -/

namespace Number

open Literal

theorem isWhole_natChars (n : Nat) : IsWhole (natChars n) := by
  rcases Nat.eq_zero_or_pos n with rfl | h
  · exact .inl natChars_zero
  · exact .inr (leading_natChars h)

/-- The literal of a decimal. -/
def decimalLiteral (negative : Bool) (d : Decimal) : Literal :=
  let ds := natChars d.digits
  let point : Int := ds.length + d.exponent
  if d.digits = 0 then ⟨negative, ['0'], some ['0'], none⟩
  else if 0 ≤ d.exponent ∧ point ≤ 16 then
    ⟨negative, ds ++ List.replicate d.exponent.toNat '0', some ['0'], none⟩
  else if 0 < point ∧ point ≤ 16 then
    ⟨negative, ds.take point.toNat, some (ds.drop point.toNat), none⟩
  else if -5 < point ∧ point ≤ 0 then
    ⟨negative, ['0'], some (List.replicate (-point).toNat '0' ++ ds), none⟩
  else ⟨negative, ds.take 1, if ds.length = 1 then none else some (ds.drop 1), some (point - 1)⟩

theorem toChars_decimalLiteral (negative : Bool) (d : Decimal) :
    (decimalLiteral negative d).toChars = signChars negative ++ decimalChars d := by
  unfold decimalLiteral decimalChars
  simp only
  split_ifs <;> simp_all [Literal.toChars, fractionChars, powerChars]

theorem wellFormed_decimalLiteral (negative : Bool) (d : Decimal) :
    (decimalLiteral negative d).WellFormed := by
  have hlen : 0 < (natChars d.digits).length := List.length_pos_iff.2 (natChars_ne_nil _)
  have hall := List.all_eq_true.1 (all_isDigit_natChars d.digits)
  have hdrop : ∀ k < (natChars d.digits).length, ∀ ds ∈ some ((natChars d.digits).drop k),
      ds ≠ [] ∧ ds.all isDigit := by
    rintro k hk ds ⟨⟩
    refine ⟨List.length_pos_iff.1 (by rw [List.length_drop]; omega),
      List.all_eq_true.2 fun c hc => ?_⟩
    exact hall c (List.mem_of_mem_drop hc)
  have hzero : ∀ ds ∈ some ['0'], ds ≠ [] ∧ ds.all isDigit := by
    rintro ds ⟨⟩
    exact ⟨List.cons_ne_nil _ _, rfl⟩
  have hzeros : ∀ k, (List.replicate k '0').all isDigit := fun k =>
    List.all_eq_true.2 fun c hc => by rw [List.eq_of_mem_replicate hc]; rfl
  unfold decimalLiteral
  simp only
  split_ifs with h0 h1 h2 h3 h4
  · exact ⟨.inl rfl, hzero⟩
  · exact ⟨.inr ((leading_natChars (Nat.pos_of_ne_zero h0)).append (hzeros _)), hzero⟩
  · exact ⟨.inr ((leading_natChars (Nat.pos_of_ne_zero h0)).take (by omega)), hdrop _ (by omega)⟩
  · refine ⟨.inl rfl, ?_⟩
    rintro ds ⟨⟩
    refine ⟨by simp, ?_⟩
    rw [List.all_append, hzeros, all_isDigit_natChars]
    rfl
  · exact ⟨.inr ((leading_natChars (Nat.pos_of_ne_zero h0)).take Nat.one_pos), by simp⟩
  · exact ⟨.inr ((leading_natChars (Nat.pos_of_ne_zero h0)).take Nat.one_pos), hdrop 1 (by omega)⟩

/-- The literal of a decimal stands for the decimal, but for zeros at its end. -/
theorem ofDecimal?_decimalLiteral (negative : Bool) (d : Decimal) :
    Binary64.ofDecimal? negative (decimalLiteral negative d).decimal =
      Binary64.ofDecimal? negative d := by
  obtain ⟨n, e⟩ := d
  have hlen : 0 < (natChars n).length := List.length_pos_iff.2 (natChars_ne_nil _)
  unfold decimalLiteral
  simp only
  split_ifs with h0 h1 h2 h3 h4
  · subst h0
    rfl
  · -- zeros are written behind the digits, and one after the point
    obtain ⟨k, rfl⟩ := Int.eq_ofNat_of_zero_le h1.1
    have hdigits : ofDigits ((natChars n ++ List.replicate k '0') ++ ['0']) = n * 10 ^ (k + 1) := by
      rw [List.append_assoc, ← List.replicate_succ', ofDigits_append, ofDigits_natChars,
        ofDigits_replicate_zero, List.length_replicate]
      ring
    simp only [Literal.decimal, Option.getD_some, Option.getD_none, Int.toNat_natCast, hdigits]
    rw [Binary64.ofDecimal?_mul_pow _ (Nat.pos_of_ne_zero h0)]
    congr 2
    simp
  · simp only [Literal.decimal, Option.getD_some, Option.getD_none, List.take_append_drop,
      ofDigits_natChars]
    congr 2
    rw [List.length_drop]
    omega
  · -- zeros are written before the digits
    have hdigits : ofDigits (['0'] ++ (List.replicate (-((natChars n).length + e)).toNat '0' ++
        natChars n)) = n := by
      rw [← List.append_assoc, List.singleton_append, ← List.replicate_succ, ofDigits_append,
        ofDigits_replicate_zero, ofDigits_natChars, Nat.mul_zero, Nat.zero_add]
    simp only [Literal.decimal, Option.getD_some, Option.getD_none, hdigits]
    congr 2
    rw [List.length_append, List.length_replicate]
    omega
  · have htake : (natChars n).take 1 = natChars n := List.take_of_length_le h4.le
    simp only [Literal.decimal, Option.getD_some, Option.getD_none, htake, List.append_nil,
      ofDigits_natChars]
    congr 2
    rw [List.length_nil]
    omega
  · simp only [Literal.decimal, Option.getD_some, List.take_append_drop,
      ofDigits_natChars]
    congr 2
    rw [List.length_drop]
    omega

/-- The literal that a number is written as. -/
def literal : Number → Literal
  | .int i _ => ⟨i < 0, natChars i.natAbs, none, none⟩
  | .real x => decimalLiteral x.negative x.shortest

theorem toChars_literal (n : Number) : n.literal.toChars = n.toChars := by
  cases n with
  | int i h =>
    by_cases hi : i < 0 <;>
      simp [literal, toChars, Literal.toChars, intChars, signChars, fractionChars, powerChars, hi]
  | real x => exact toChars_decimalLiteral _ _

theorem wellFormed_literal (n : Number) : n.literal.WellFormed := by
  cases n with
  | int i h => exact ⟨isWhole_natChars _, by simp [literal]⟩
  | real x => exact wellFormed_decimalLiteral _ _

/-! ### Numbers that are read back -/

/-- The number is read back from its text. -/
def ReadsBack (n : Number) : Prop := ofLiteral? n.literal = some n

instance (n : Number) : Decidable n.ReadsBack := inferInstanceAs (Decidable (_ = _))

/-- A number that is read back is scanned from its text. -/
theorem scanNumber_toChars {n : Number} (hn : n.ReadsBack) {r : List Char} (hr : EndsNumber r) :
    scanNumber (n.toChars ++ r) = some (.number (some n), r) := by
  rw [← toChars_literal, scanNumber_literal (wellFormed_literal n) hr, hn]

theorem le_foldl_pushDigit (cs : List Char) (n : Nat) :
    n ≤ cs.foldl pushDigit n := by
  induction cs generalizing n with
  | nil => exact Nat.le_refl n
  | cons c cs ih =>
    have hpush : n ≤ pushDigit n c := by
      unfold pushDigit
      omega
    exact hpush.trans (ih _)

/-- Digits are appended in full when 64 bits hold them. -/
theorem appendDigits_eq (cs : List Char) (n : Nat)
    (h : ((cs.foldl pushDigit n : Nat) : Int) < unsignedBound) :
    appendDigits n cs = (cs.foldl pushDigit n, []) := by
  induction cs generalizing n with
  | nil => rfl
  | cons c cs ih =>
    rw [List.foldl_cons] at h ⊢
    have hle := Int.ofNat_le.2 (le_foldl_pushDigit cs (pushDigit n c))
    rw [appendDigits, if_pos (hle.trans_lt h), ih _ h]

theorem appendDigits_ofDigits {cs : List Char} (h : (ofDigits cs : Int) < unsignedBound) :
    appendDigits 0 cs = (ofDigits cs, []) := appendDigits_eq cs 0 h

/-- Integers are read back. -/
theorem readsBack_int (i : Int) (h : FitsIn64 i) : (int i h).ReadsBack := by
  have hnat : ((i.natAbs : Nat) : Int) < unsignedBound := by
    obtain ⟨hlow, hhigh⟩ := h
    unfold signedBound at hlow
    unfold unsignedBound at hhigh ⊢
    omega
  have hdigits := @appendDigits_ofDigits (natChars i.natAbs) (by rwa [ofDigits_natChars])
  have hint : (if i < 0 then -((i.natAbs : Nat) : Int) else (i.natAbs : Nat)) = i := by
    split <;> omega
  have hneg : ¬(i < 0 ∧ i.natAbs = 0) := by omega
  simp only [ReadsBack, literal, ofLiteral?, hdigits, ofDigits_natChars, decide_eq_true_eq, hneg,
    if_false, hint, ofInt?, h, dif_pos]

/-- A short literal with a point or a power is read as the double nearest to it. -/
theorem ofLiteral?_of_short {l : Literal} (hl : l.Short)
    (hreal : l.fraction.isSome ∨ l.power.isSome) :
    ofLiteral? l = (Binary64.ofDecimal? l.negative l.decimal).map real := by
  obtain ⟨hdigits, hexponent⟩ := hl
  have hbound : (l.decimal.digits : Int) < unsignedBound := by
    unfold Binary64.hidden at hdigits
    unfold unsignedBound
    omega
  have hfold : l.decimal.digits = (l.fraction.getD []).foldl pushDigit (ofDigits l.whole) := by
    rw [Literal.decimal, ofDigits, List.foldl_append]
    rfl
  have hwhole := @appendDigits_ofDigits l.whole
    ((Int.ofNat_le.2 (hfold ▸ le_foldl_pushDigit _ _)).trans_lt hbound)
  have hall := appendDigits_eq _ _ (hfold ▸ hbound)
  rw [← hfold] at hall
  have hparts : ofLiteral? l =
      (Binary64.ofParts? l.negative l.decimal.digits l.decimal.exponent).map real := by
    obtain ⟨negative, whole, fraction, power⟩ := l
    simp only at hwhole hall hreal
    cases fraction <;> cases power <;> simp_all [ofLiteral?, Literal.decimal]
  rw [hparts, Binary64.ofParts?_eq_ofDecimal? _ hdigits hexponent]

/-- The double of a number is as doubles that are read. -/
def Canonical : Number → Prop
  | .int _ _ => True
  | .real x => x.Canonical

/-- What is read is canonical. -/
theorem canonical_of_ofLiteral? {l : Literal} {n : Number} (h : ofLiteral? l = some n) :
    n.Canonical := by
  have hreal : ∀ {s : Nat} {e : Int}, (Binary64.ofParts? l.negative s e).map real = some n →
      n.Canonical := by
    intro s e hparts
    obtain ⟨x, hx, rfl⟩ := Option.map_eq_some_iff.1 hparts
    exact (Binary64.canonical_of_ofParts? hx).1
  have hint : ∀ {i : Int} {k : Number}, ofInt? i = some k → k.Canonical := by
    intro i k hk
    unfold ofInt? at hk
    split at hk
    · obtain rfl := Option.some.inj hk
      exact trivial
    · cases hk
  simp only [ofLiteral?] at h
  split at h
  · split at h
    · exact hreal h
    · split at h
      · next hk =>
        obtain rfl := Option.some.inj h
        exact hint hk
      · exact hreal h
  · exact hreal h

/-- An integer, or a double whose text is short. -/
def Short : Number → Prop
  | int _ _ => True
  | real x => (real x).literal.Short

instance : (n : Number) → Decidable n.Short
  | int _ _ => isTrue trivial
  | real x => inferInstanceAs (Decidable (real x).literal.Short)

/-- **Numbers of few digits are read back.** A number that was read is read from its own text as
the same number, if it is short. -/
theorem readsBack_of_ofLiteral? {l : Literal} {n : Number} (h : ofLiteral? l = some n)
    (hshort : n.Short) : n.ReadsBack := by
  have hn := canonical_of_ofLiteral? h
  cases n with
  | int i hi => exact readsBack_int i hi
  | real x =>
    have hsome : (literal (real x)).fraction.isSome ∨ (literal (real x)).power.isSome := by
      simp only [literal, decimalLiteral]
      split_ifs <;> simp
    have hsign : (literal (real x)).negative = x.negative := by
      simp only [literal, decimalLiteral]
      split_ifs <;> rfl
    rw [ReadsBack, ofLiteral?_of_short hshort hsome, hsign, literal, ofDecimal?_decimalLiteral,
      Binary64.ofDecimal?_shortest hn]
    rfl

end Number

end CampusView.Json
