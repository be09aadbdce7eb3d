import CampusView.Proofs.Json.Rounding

/-!
# Doubles that are read from few digits

A literal is rounded twice as it is read (`Binary64.ofParts?`): its digits to a double, and the
product or quotient with a power of ten. With less than 53 bits of digits and a power of ten up to
the 22nd, both of these are exact, so only the last rounding is left, and what is read is the double
nearest to the literal (`ofParts?_eq_ofDecimal?`).
-/

namespace CampusView.Json

namespace Binary64

/-! ### Products and quotients -/

section Arithmetic

variable (x y : Binary64)

theorem ratio_den_pos : 0 < x.ratio.2 := unscale_den_pos _ _ (by decide) (by decide)

theorem ratio_value : (x.ratio.1 : ℚ) / x.ratio.2 = x.value := by
  rw [ratio, unscale_value _ _ (by decide), Nat.cast_one, div_one, zpow_neg, div_inv_eq_mul]
  rfl

theorem times?_eq : x.times? y = ofRatio? x.negative (x.ratio.1 * y.ratio.1)
    (x.ratio.2 * y.ratio.2) := rfl

theorem over?_eq : x.over? y = ofRatio? x.negative (x.ratio.1 * y.ratio.2)
    (x.ratio.2 * y.ratio.1) := rfl

theorem times_value : ((x.ratio.1 * y.ratio.1 : Nat) : ℚ) / (x.ratio.2 * y.ratio.2 : Nat) =
    x.value * y.value := by
  rw [← ratio_value x, ← ratio_value y]
  push_cast
  exact mul_div_mul_comm ..

theorem over_value : ((x.ratio.1 * y.ratio.2 : Nat) : ℚ) / (x.ratio.2 * y.ratio.1 : Nat) =
    x.value / y.value := by
  rw [← ratio_value x, ← ratio_value y, div_div_div_eq]
  push_cast
  rfl

theorem ratio_num_pos {x : Binary64} (h : 0 < x.value) : 0 < x.ratio.1 := by
  refine Nat.pos_of_ne_zero fun h0 => h.ne ?_
  rw [← ratio_value, h0, Nat.cast_zero, zero_div]

end Arithmetic

/-! ### What is read is canonical -/

/-- The powers of ten that are doubles are not zero. -/
theorem powerOfTen?_pos :
    ∀ k < largestPower + 1, ∀ p ∈ powerOfTen? k, 0 < p.mantissa := by
  decide +kernel

theorem value_pos {x : Binary64} (h : 0 < x.mantissa) : 0 < x.value :=
  mul_pos (by exact_mod_cast h) (by positivity)

theorem canonical_of_times? {x y z : Binary64} (h : x.times? y = some z) :
    z.Canonical ∧ z.negative = x.negative :=
  canonical_of_ofRatio? (Nat.mul_pos x.ratio_den_pos y.ratio_den_pos) h

theorem canonical_of_over? {x y z : Binary64} (hy : 0 < y.mantissa) (h : x.over? y = some z) :
    z.Canonical ∧ z.negative = x.negative :=
  canonical_of_ofRatio? (Nat.mul_pos x.ratio_den_pos (ratio_num_pos (value_pos hy))) h

theorem canonical_of_lowered? {steps : Nat} {x y : Binary64} (hx : x.Canonical)
    (h : lowered? steps x = some y) : y.Canonical ∧ y.negative = x.negative := by
  induction steps generalizing x with
  | zero =>
    obtain rfl := Option.some.inj h
    exact ⟨hx, rfl⟩
  | succ steps ih =>
    rw [lowered?] at h
    split at h
    · obtain rfl := Option.some.inj h
      exact ⟨hx, rfl⟩
    · simp only [Option.bind_eq_bind, Option.bind_eq_some_iff] at h
      obtain ⟨p, hp, z, hz, hy⟩ := h
      obtain ⟨hcanonical, hsign⟩ := canonical_of_over? (powerOfTen?_pos _ (by decide) p hp) hz
      obtain ⟨hy, hsign'⟩ := ih hcanonical hy
      exact ⟨hy, hsign'.trans hsign⟩

/-- A double that was read is canonical and has the sign of its literal. -/
theorem canonical_of_ofParts? {negative : Bool} {s : Nat} {e : Int} {x : Binary64}
    (h : ofParts? negative s e = some x) : x.Canonical ∧ x.negative = negative := by
  simp only [ofParts?, Option.bind_eq_bind, Option.bind_eq_some_iff] at h
  obtain ⟨y, hy, h⟩ := h
  obtain ⟨hcanonical, rfl⟩ := canonical_of_ofRatio? Nat.one_pos hy
  split at h
  · obtain rfl := Option.some.inj h
    exact ⟨hcanonical, rfl⟩
  split at h
  · simp only [Option.bind_eq_some_iff] at h
    obtain ⟨z, hz, p, hp, hx⟩ := h
    obtain ⟨-, hsign⟩ := canonical_of_lowered? hcanonical hz
    have hk : e.natAbs - largestPower * ((e.natAbs - 1) / largestPower) < largestPower + 1 := by
      unfold largestPower
      omega
    obtain ⟨hx, hsign'⟩ := canonical_of_over? (powerOfTen?_pos _ hk p hp) hx
    exact ⟨hx, hsign'.trans hsign⟩
  split at h
  · simp only [Option.bind_eq_some_iff] at h
    obtain ⟨p, -, hx⟩ := h
    exact canonical_of_times? hx
  · cases h

/-! ### Few digits -/

/-- A natural number of less than 53 bits is a double. -/
theorem ofRatio?_natCast (negative : Bool) {n : Nat} (h0 : n ≠ 0) (hn : n < 2 * hidden) :
    ∃ x, ofRatio? negative n 1 = some x ∧ x.negative = negative ∧ x.mantissa ≠ 0 ∧
      x.value = n := by
  have hlog : n.log2 ≤ 52 := by
    have : n < 2 ^ 53 := hn
    have := (Nat.log2_lt h0).2 this
    omega
  have hpow : 2 ^ n.log2 * 2 ^ (52 - n.log2) = hidden := by
    rw [← Nat.pow_add, Nat.add_sub_cancel' hlog]
    rfl
  let x : Binary64 := ⟨negative, n * 2 ^ (52 - n.log2), -((52 - n.log2 : Nat) : Int)⟩
  have hlow : hidden ≤ x.mantissa := hpow ▸ Nat.mul_le_mul_right _ (Nat.log2_self_le h0)
  have hhigh : x.mantissa < 2 * hidden := by
    rw [← hpow, ← Nat.mul_assoc, ← Nat.pow_succ']
    exact Nat.mul_lt_mul_of_pos_right Nat.lt_log2_self (Nat.pow_pos (by decide))
  have hexponent : minExponent ≤ x.exponent ∧ x.exponent ≤ maxExponent := by
    simp only [x, minExponent, maxExponent]
    omega
  have hvalue : x.value = n := by
    simp only [x, value, zpow_neg, zpow_natCast]
    push_cast
    exact mul_inv_cancel_right₀ (by positivity) _
  have hm : x.mantissa ≠ 0 := (Nat.lt_of_lt_of_le (by decide : 0 < hidden) hlow).ne'
  refine ⟨x, ?_, rfl, hm, hvalue⟩
  exact ofRatio?_exact ⟨hhigh, hexponent, .inl hlow⟩ hm Nat.one_pos
    (by rw [Nat.cast_one, div_one, hvalue])

/-- The first powers of ten are doubles. -/
theorem powerOfTen?_small :
    ∀ k < 23, ∃ p ∈ powerOfTen? k, p.ratio.1 = 10 ^ k * p.ratio.2 := by
  decide

theorem exists_powerOfTen? {k : Nat} (hk : k ≤ 22) :
    ∃ p, powerOfTen? k = some p ∧ p.value = 10 ^ k := by
  obtain ⟨p, hp, hratio⟩ := powerOfTen?_small k (by omega)
  refine ⟨p, hp, ?_⟩
  have hden : (p.ratio.2 : ℚ) ≠ 0 := by exact_mod_cast p.ratio_den_pos.ne'
  rw [← ratio_value, hratio]
  push_cast
  exact mul_div_cancel_right₀ _ hden

section

variable {negative : Bool} {s k : Nat} {x p : Binary64}

/-- A small negative power of ten is divided by once. -/
theorem ofParts?_neg (hx : ofRatio? negative s 1 = some x) (hm : x.mantissa ≠ 0) (hk0 : k ≠ 0)
    (hk : k ≤ 22) (hp : powerOfTen? k = some p) : ofParts? negative s (-(k : Int)) = x.over? p := by
  have hneg : -(k : Int) < 0 := by omega
  have hsteps : (k - 1) / largestPower = 0 := by
    unfold largestPower
    omega
  simp only [ofParts?, hx, hm, hneg, Int.natAbs_neg, Int.natAbs_natCast, hsteps, lowered?, if_true,
    if_false, Nat.mul_zero, Nat.sub_zero, Option.bind_eq_bind, Option.bind_some, hp]

/-- A small power of ten is multiplied with. -/
theorem ofParts?_natCast (hx : ofRatio? negative s 1 = some x) (hm : x.mantissa ≠ 0) (hk : k ≤ 22)
    (hp : powerOfTen? k = some p) : ofParts? negative s k = x.times? p := by
  have hnonneg : ¬(k : Int) < 0 := by omega
  have hle : (k : Int) ≤ (largestPower : Int) := by
    unfold largestPower
    omega
  simp only [ofParts?, hx, hm, hnonneg, hle, if_true, if_false, Int.toNat_natCast,
    Option.bind_eq_bind, Option.bind_some, hp]

end

/-- A decimal of few digits is neither too small nor too large to be rounded. -/
theorem ofDecimal?_of_few (negative : Bool) {c : Decimal} (h0 : c.digits ≠ 0)
    (hdigits : c.digits < 2 * hidden) (hexponent : -22 ≤ c.exponent ∧ c.exponent ≤ 22) :
    ofDecimal? negative c = ofRatio? negative (unscale 10 c.digits 1 (-c.exponent)).1
      (unscale 10 c.digits 1 (-c.exponent)).2 := by
  have hwidth : Decimal.width c.digits ≤ 16 := by
    by_contra hlt
    have := Decimal.pow_le_of_lt_width (by omega : 16 < Decimal.width c.digits)
      (Nat.pos_of_ne_zero h0)
    unfold hidden at hdigits
    omega
  have hwide := Decimal.width_pos c.digits
  simp only [ofDecimal?]
  rw [if_neg (by omega), if_neg (by omega)]

/-- Digits of less than 53 bits with a power of ten up to the 22nd are read as the nearest double.
-/
theorem ofParts?_eq_ofDecimal? (negative : Bool) {c : Decimal} (hdigits : c.digits < 2 * hidden)
    (hexponent : -22 ≤ c.exponent ∧ c.exponent ≤ 22) :
    ofParts? negative c.digits c.exponent = ofDecimal? negative c := by
  by_cases h0 : c.digits = 0
  · simp [ofParts?, ofDecimal?, ofRatio?, h0]
  obtain ⟨x, hx, rfl, hm, hvalue⟩ := ofRatio?_natCast negative h0 hdigits
  have hden := unscale_den_pos c.digits (-c.exponent) (by decide : 0 < 10) Nat.one_pos
  have hexact := unscale_decimal_value c
  rw [ofDecimal?_of_few _ h0 hdigits hexponent]
  rcases lt_or_ge c.exponent 0 with hneg | hnonneg
  · obtain ⟨k, hk⟩ := Int.eq_ofNat_of_zero_le (by omega : 0 ≤ -c.exponent)
    have hke : c.exponent = -(k : Int) := by omega
    obtain ⟨p, hp, hpower⟩ := exists_powerOfTen? (by omega : k ≤ 22)
    have hppos : 0 < p.value := hpower ▸ by positivity
    have hread : ofParts? x.negative c.digits c.exponent = x.over? p := by
      rw [hke]
      exact ofParts?_neg hx hm (by omega) (by omega) hp
    rw [hread, over?_eq]
    refine ofRatio?_congr _ (Nat.mul_pos x.ratio_den_pos (ratio_num_pos hppos)) hden ?_
    rw [over_value, hexact, hvalue, hpower, Decimal.value, hke, zpow_neg, zpow_natCast,
      div_eq_mul_inv]
  · obtain ⟨k, hk⟩ := Int.eq_ofNat_of_zero_le hnonneg
    obtain ⟨p, hp, hpower⟩ := exists_powerOfTen? (by omega : k ≤ 22)
    have hread : ofParts? x.negative c.digits c.exponent = x.times? p := by
      rw [hk]
      exact ofParts?_natCast hx hm (by omega) hp
    rw [hread, times?_eq]
    refine ofRatio?_congr _ (Nat.mul_pos x.ratio_den_pos p.ratio_den_pos) hden ?_
    rw [times_value, hexact, hvalue, hpower, Decimal.value, hk, zpow_natCast]

end Binary64

end CampusView.Json
