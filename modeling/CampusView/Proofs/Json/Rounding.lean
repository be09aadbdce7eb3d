import CampusView.Proofs.Json.Digits
import Mathlib.Algebra.Order.Field.Power
import Mathlib.Data.Int.Log
import Mathlib.Data.Rat.Floor
import Mathlib.Tactic.Linarith
import Mathlib.Tactic.NormNum
import Mathlib.Tactic.Positivity
import Mathlib.Tactic.Ring

/-!
# Doubles and their shortest decimals

The double nearest to a fraction depends on nothing but the value of the fraction
(`ofRatio?_congr`), and so a decimal may be written with more or fewer zeros
(`ofDecimal?_mul_pow`). A double that was read is `Canonical`: its mantissa has 53 bits if the
exponent leaves a choice. Such a double is read back from its shortest decimal
(`ofDecimal?_shortest`).
-/

namespace CampusView.Json

/-- The value of a decimal. -/
def Decimal.value (c : Decimal) : ℚ := c.digits * 10 ^ c.exponent

/-- The absolute value of a double. -/
def Binary64.value (x : Binary64) : ℚ := x.mantissa * 2 ^ x.exponent

namespace Binary64

/-! ### Scaling -/

section Unscale

variable {base : Nat} (num : Nat) {den : Nat} (e : Int)

theorem unscale_den_pos (hb : 0 < base) (hd : 0 < den) : 0 < (unscale base num den e).2 := by
  unfold unscale
  split
  · exact Nat.mul_pos hd (Nat.pow_pos hb)
  · exact hd

/-- The value of a scaled fraction. -/
theorem unscale_value (hb : 0 < base) :
    ((unscale base num den e).1 : ℚ) / (unscale base num den e).2 =
      (num : ℚ) / den / (base : ℚ) ^ e := by
  have hb' : (base : ℚ) ≠ 0 := by exact_mod_cast hb.ne'
  unfold unscale
  split
  · next he =>
    obtain ⟨k, rfl⟩ := Int.eq_ofNat_of_zero_le he
    show (num : ℚ) / ((den * base ^ k : Nat) : ℚ) = _
    rw [Nat.cast_mul, Nat.cast_pow, zpow_natCast, div_div]
  · next he =>
    obtain ⟨k, hk⟩ := Int.eq_ofNat_of_zero_le (by omega : 0 ≤ -e)
    have hke : e = -(k : Int) := by omega
    subst hke
    rw [neg_neg, Int.toNat_natCast]
    show ((num * base ^ k : Nat) : ℚ) / den = _
    rw [Nat.cast_mul, Nat.cast_pow, zpow_neg, zpow_natCast, div_inv_eq_mul]
    ring

end Unscale

/-- A whole quotient is below a bound if the fraction is. -/
theorem div_lt_iff {n d b : Nat} (hd : 0 < d) : n / d < b ↔ (n : ℚ) / d < b := by
  have hd' : (0 : ℚ) < d := by exact_mod_cast hd
  rw [Nat.div_lt_iff_lt_mul hd, div_lt_iff₀ hd']
  exact_mod_cast Iff.rfl

theorem le_div_iff {n d b : Nat} (hd : 0 < d) : b ≤ n / d ↔ (b : ℚ) ≤ (n : ℚ) / d := by
  have h := (div_lt_iff (n := n) (b := b) hd).not
  rwa [not_lt, not_lt] at h

theorem hidden_eq : (hidden : ℚ) = 2 ^ (52 : Int) := by
  norm_num [hidden]

theorem cast_pow_log {r : ℚ} (hr : 0 < r) :
    (2 : ℚ) ^ Int.log 2 r ≤ r ∧ r < (2 : ℚ) ^ (Int.log 2 r + 1) :=
  ⟨by exact_mod_cast Int.zpow_log_le_self (b := 2) (by decide) hr,
    by exact_mod_cast Int.lt_zpow_succ_log_self (b := 2) (by decide) r⟩

theorem cast_pow_log2 {n : Nat} (hn : 0 < n) :
    (2 : ℚ) ^ (n.log2 : Int) ≤ n ∧ (n : ℚ) < (2 : ℚ) ^ ((n.log2 : Int) + 1) := by
  have hle : (2 : ℚ) ^ n.log2 ≤ n := by exact_mod_cast Nat.log2_self_le hn.ne'
  have hlt : (n : ℚ) < (2 : ℚ) ^ (n.log2 + 1) := by exact_mod_cast Nat.lt_log2_self (n := n)
  exact ⟨by rwa [zpow_natCast], by exact_mod_cast hlt⟩

/-- The exponent of a fraction is given by its binary logarithm. -/
theorem placeOf_eq {num den : Nat} (hn : 0 < num) (hd : 0 < den) :
    placeOf num den = max minExponent (Int.log 2 ((num : ℚ) / den) - 52) := by
  have hn' : (0 : ℚ) < num := by exact_mod_cast hn
  have hd' : (0 : ℚ) < den := by exact_mod_cast hd
  set r : ℚ := (num : ℚ) / den with hr
  have hr0 : 0 < r := div_pos hn' hd'
  have hnum := cast_pow_log2 hn
  have hden := cast_pow_log2 hd
  set a : Int := (num.log2 : Int)
  set b : Int := (den.log2 : Int)
  -- the logarithms of numerator and denominator give that of the fraction up to one
  have hlow : a - b - 1 ≤ Int.log 2 r := by
    apply (Int.zpow_le_iff_le_log (by decide) hr0).1
    rw [hr, le_div_iff₀ hd', Nat.cast_ofNat]
    calc (2 : ℚ) ^ (a - b - 1) * den ≤ 2 ^ (a - b - 1) * 2 ^ (b + 1) := by gcongr; exact hden.2.le
      _ = 2 ^ a := by rw [← zpow_add₀ (by norm_num)]; congr 1; ring
      _ ≤ num := hnum.1
  have hhigh : Int.log 2 r < a - b + 1 := by
    apply (Int.lt_zpow_iff_log_lt (by decide) hr0).1
    rw [hr, div_lt_iff₀ hd', Nat.cast_ofNat]
    calc (num : ℚ) < 2 ^ (a + 1) := hnum.2
      _ = 2 ^ (a - b + 1) * 2 ^ b := by rw [← zpow_add₀ (by norm_num)]; congr 1; ring
      _ ≤ 2 ^ (a - b + 1) * den := by gcongr; exact hden.1
  -- the quotient decides between the two values that are left
  have hcut : (unscale 2 num den (a - b - 53)).1 / (unscale 2 num den (a - b - 53)).2 < 2 * hidden ↔
      Int.log 2 r < a - b := by
    rw [div_lt_iff (unscale_den_pos _ _ (by decide) hd), unscale_value _ _ (by decide), ← hr,
      div_lt_iff₀ (by positivity), ← Int.lt_zpow_iff_log_lt (by decide) hr0]
    rw [Nat.cast_mul, hidden_eq]
    have he : ((2 : Nat) : ℚ) * 2 ^ (52 : Int) * ((2 : Nat) : ℚ) ^ (a - b - 53) =
        ((2 : Nat) : ℚ) ^ (a - b) := by
      rw [Nat.cast_ofNat, ← zpow_one_add₀ (by norm_num), ← zpow_add₀ (by norm_num)]
      congr 1
      ring
    rw [he]
  show max minExponent (if (unscale 2 num den (a - b - 53)).1 /
    (unscale 2 num den (a - b - 53)).2 < 2 * hidden then a - b - 53 else a - b - 53 + 1) = _
  congr 1
  split
  · next h =>
    have := hcut.1 h
    omega
  · next h =>
    have := mt hcut.2 h
    omega

/-! ### Rounding a fraction -/

theorem roundDiv_mul_left {k : Nat} (hk : 0 < k) (n d : Nat) :
    roundDiv (k * n) (k * d) = roundDiv n d := by
  unfold roundDiv
  simp only [Nat.mul_div_mul_left n d hk, Nat.mul_mod_mul_left]
  rw [show 2 * (k * (n % d)) = k * (2 * (n % d)) by ring]
  simp only [Nat.mul_lt_mul_left hk, Nat.mul_right_inj hk.ne']

/-- Fractions of the same value are rounded alike. -/
theorem roundDiv_congr {n d n' d' : Nat} (hd : 0 < d) (hd' : 0 < d')
    (h : (n : ℚ) / d = n' / d') : roundDiv n d = roundDiv n' d' := by
  have hq : (n : ℚ) * d' = n' * d :=
    (div_eq_div_iff (by exact_mod_cast hd.ne') (by exact_mod_cast hd'.ne')).1 h
  have hnat : n * d' = n' * d := by exact_mod_cast hq
  rw [← roundDiv_mul_left hd' n d, ← roundDiv_mul_left hd n' d', Nat.mul_comm d' n, hnat,
    Nat.mul_comm n' d, Nat.mul_comm d' d]

/-- Rounding moves a fraction to one of its neighbours. -/
theorem roundDiv_bounds (n d : Nat) : n / d ≤ roundDiv n d ∧ roundDiv n d ≤ n / d + 1 := by
  have := Nat.mod_two_eq_zero_or_one (n / d)
  simp only [roundDiv]
  split_ifs <;> omega

theorem roundDiv_mul_self {d : Nat} (hd : 0 < d) (m : Nat) : roundDiv (m * d) d = m := by
  simp [roundDiv, Nat.mul_div_cancel m hd, hd]

/-- Fractions of the same value have the same nearest double. -/
theorem ofRatio?_congr (negative : Bool) {num den num' den' : Nat} (hd : 0 < den) (hd' : 0 < den')
    (h : (num : ℚ) / den = num' / den') :
    ofRatio? negative num den = ofRatio? negative num' den' := by
  have hzero : num = 0 ↔ num' = 0 := by
    have hq : (num : ℚ) * den' = num' * den :=
      (div_eq_div_iff (by exact_mod_cast hd.ne') (by exact_mod_cast hd'.ne')).1 h
    have hnat : num * den' = num' * den := by exact_mod_cast hq
    constructor
    · rintro rfl
      rw [Nat.zero_mul] at hnat
      exact (Nat.mul_eq_zero.1 hnat.symm).resolve_right hd.ne'
    · rintro rfl
      rw [Nat.zero_mul] at hnat
      exact (Nat.mul_eq_zero.1 hnat).resolve_right hd'.ne'
  by_cases hn : num = 0
  · rw [ofRatio?, if_pos hn, ofRatio?, if_pos (hzero.1 hn)]
  · have hplace : placeOf num den = placeOf num' den' := by
      rw [placeOf_eq (Nat.pos_of_ne_zero hn) hd,
        placeOf_eq (Nat.pos_of_ne_zero (mt hzero.2 hn)) hd', h]
    have hround := roundDiv_congr (unscale_den_pos _ (placeOf num' den') (by decide : 0 < 2) hd)
      (unscale_den_pos _ (placeOf num' den') (by decide : 0 < 2) hd')
      (by rw [unscale_value _ _ (by decide), unscale_value _ _ (by decide), h])
    rw [ofRatio?, if_neg hn, ofRatio?, if_neg (mt hzero.2 hn), hplace]
    simp only [hround]

/-! ### Doubles that were read -/

/-- The double has its mantissa in full: 53 bits, or fewer at the least exponent. -/
structure Canonical (x : Binary64) : Prop where
  mantissa : x.mantissa < 2 * hidden
  exponent : minExponent ≤ x.exponent ∧ x.exponent ≤ maxExponent
  full : hidden ≤ x.mantissa ∨ x.exponent = minExponent

theorem canonical_zero (negative : Bool) : Canonical ⟨negative, 0, minExponent⟩ :=
  ⟨(by decide : 0 < 2 * hidden),
    (by decide : minExponent ≤ minExponent ∧ minExponent ≤ maxExponent), .inr rfl⟩

theorem canonical_of_ofRatio? {negative : Bool} {num den : Nat} {x : Binary64} (hd : 0 < den)
    (h : ofRatio? negative num den = some x) : x.Canonical ∧ x.negative = negative := by
  unfold ofRatio? at h
  by_cases hn : num = 0
  · rw [if_pos hn] at h
    obtain rfl := Option.some.inj h
    exact ⟨canonical_zero negative, rfl⟩
  rw [if_neg hn] at h
  set r : ℚ := (num : ℚ) / den with hr
  have hr0 : 0 < r := div_pos (by exact_mod_cast Nat.pos_of_ne_zero hn) (by exact_mod_cast hd)
  set e := placeOf num den with he
  rw [placeOf_eq (Nat.pos_of_ne_zero hn) hd, ← hr] at he
  obtain ⟨n, d, hnd⟩ : ∃ n d, unscale 2 num den e = (n, d) := ⟨_, _, rfl⟩
  have hd0 : 0 < d := by
    have := unscale_den_pos num e (by decide : 0 < 2) hd
    rwa [hnd] at this
  have hv : (n : ℚ) / d = r / 2 ^ e := by
    have := @unscale_value 2 num den e (by decide)
    rw [hnd] at this
    exact_mod_cast this
  have htop : n / d < 2 * hidden := by
    rw [div_lt_iff hd0, hv, div_lt_iff₀ (by positivity), Nat.cast_mul, hidden_eq, Nat.cast_ofNat,
      ← zpow_one_add₀ (by norm_num), ← zpow_add₀ (by norm_num)]
    refine (cast_pow_log hr0).2.trans_le (zpow_le_zpow_right₀ (by norm_num) ?_)
    omega
  have hbottom : e ≠ minExponent → hidden ≤ n / d := by
    intro hne
    rw [le_div_iff hd0, hv, le_div_iff₀ (by positivity), hidden_eq, ← zpow_add₀ (by norm_num)]
    refine le_trans (zpow_le_zpow_right₀ (by norm_num) ?_) (cast_pow_log hr0).1
    omega
  have hmin : minExponent ≤ e := by omega
  obtain ⟨hq, hq'⟩ := roundDiv_bounds n d
  simp only [hnd] at h
  split_ifs at h with hfull hmax hmax
  · -- the mantissa was rounded up to the next power of two
    obtain rfl := Option.some.inj h
    simp only at hmax
    exact ⟨⟨(by decide : hidden < 2 * hidden), by simp only; omega, .inl (Nat.le_refl _)⟩, rfl⟩
  · obtain rfl := Option.some.inj h
    simp only at hmax
    refine ⟨⟨by simp only; omega, by simp only; omega, ?_⟩, rfl⟩
    by_cases hne : e = minExponent
    · exact .inr hne
    · exact .inl ((hbottom hne).trans hq)

/-! ### Exact fractions -/

/-- A double is the nearest one to its own value. -/
theorem ofRatio?_exact {x : Binary64} (hx : x.Canonical) (hm : x.mantissa ≠ 0) {num den : Nat}
    (hd : 0 < den) (h : (num : ℚ) / den = x.value) : ofRatio? x.negative num den = some x := by
  have hm0 : (0 : ℚ) < x.mantissa := by exact_mod_cast Nat.pos_of_ne_zero hm
  have hv0 : 0 < x.value := mul_pos hm0 (by positivity)
  have hn : num ≠ 0 := by
    rintro rfl
    rw [Nat.cast_zero, zero_div] at h
    exact hv0.ne h
  have htop : Int.log 2 ((num : ℚ) / den) < x.exponent + 53 := by
    apply (Int.lt_zpow_iff_log_lt (by decide) (h ▸ hv0)).1
    have hlt : (x.mantissa : ℚ) < 2 ^ (53 : Int) := by
      have : (x.mantissa : ℚ) < (2 * hidden : Nat) := by exact_mod_cast hx.mantissa
      apply this.trans_eq
      norm_num [hidden]
    rw [h, Nat.cast_ofNat, add_comm, zpow_add₀ (by norm_num), value]
    gcongr
  have hbottom : hidden ≤ x.mantissa → x.exponent + 52 ≤ Int.log 2 ((num : ℚ) / den) := by
    intro hle
    apply (Int.zpow_le_iff_le_log (by decide) (h ▸ hv0)).1
    have : (2 : ℚ) ^ (52 : Int) ≤ x.mantissa := by
      rw [← hidden_eq]
      exact_mod_cast hle
    rw [h, Nat.cast_ofNat, add_comm, zpow_add₀ (by norm_num), value]
    gcongr
  have hplace : placeOf num den = x.exponent := by
    rw [placeOf_eq (Nat.pos_of_ne_zero hn) hd]
    have := hx.exponent.1
    rcases hx.full with hfull | hfull
    · have := hbottom hfull
      omega
    · omega
  have hd' := unscale_den_pos num x.exponent (by decide : 0 < 2) hd
  -- in the right place the quotient is the mantissa, so nothing is rounded
  have hround : roundDiv (unscale 2 num den x.exponent).1 (unscale 2 num den x.exponent).2 =
      x.mantissa := by
    rw [← roundDiv_mul_self (d := 1) (by decide) x.mantissa]
    apply roundDiv_congr hd' (by decide)
    rw [unscale_value _ _ (by decide), h, value, Nat.cast_ofNat, Nat.mul_one, Nat.cast_one, div_one,
      mul_div_cancel_right₀ _ (by positivity)]
  have hne : x.mantissa ≠ 2 * hidden := hx.mantissa.ne
  rw [ofRatio?, if_neg hn, hplace]
  simp only [hround, hne, if_false]
  rw [if_neg (not_lt.2 hx.exponent.2)]

/-! ### Decimals -/

theorem unscale_decimal_value (c : Decimal) :
    ((unscale 10 c.digits 1 (-c.exponent)).1 : ℚ) / (unscale 10 c.digits 1 (-c.exponent)).2 =
      c.value := by
  rw [unscale_value _ _ (by decide), Nat.cast_one, div_one, zpow_neg, div_inv_eq_mul]
  rfl

/-- Zeros at the end of a decimal may be written or not. -/
theorem ofDecimal?_mul_pow (negative : Bool) {n : Nat} (hn : 0 < n) (k : Nat) (e : Int) :
    ofDecimal? negative ⟨n * 10 ^ k, e⟩ = ofDecimal? negative ⟨n, e + k⟩ := by
  have hpow : 0 < n * 10 ^ k := Nat.mul_pos hn (Nat.pow_pos (by decide))
  have hvalue : (Decimal.mk (n * 10 ^ k) e).value = (Decimal.mk n (e + k)).value := by
    unfold Decimal.value
    rw [Nat.cast_mul, Nat.cast_pow, zpow_add₀ (by norm_num), zpow_natCast, Nat.cast_ofNat]
    ring
  have hround := ofRatio?_congr negative
    (unscale_den_pos (n * 10 ^ k) (-e) (by decide : 0 < 10) Nat.one_pos)
    (unscale_den_pos n (-(e + k)) (by decide : 0 < 10) Nat.one_pos)
    ((unscale_decimal_value ⟨n * 10 ^ k, e⟩).trans
      (hvalue.trans (unscale_decimal_value ⟨n, e + k⟩).symm))
  have hwidth : ((Decimal.width n + k : Nat) : Int) + e = Decimal.width n + (e + k) := by
    push_cast
    ring
  simp only [ofDecimal?, Decimal.width_mul_pow hn, hround, hwidth, hn.ne', hpow.ne', false_or]

theorem ofDecimal?_stripZeros (negative : Bool) (fuel : Nat) (c : Decimal) :
    ofDecimal? negative (c.stripZeros fuel) = ofDecimal? negative c := by
  induction fuel generalizing c with
  | zero => rfl
  | succ fuel ih =>
    rw [Decimal.stripZeros]
    split
    · next h =>
      have hn : 0 < c.digits / 10 := by omega
      have hc : c.digits / 10 * 10 ^ 1 = c.digits := by omega
      rw [ih, ← Nat.cast_one (R := Int), ← ofDecimal?_mul_pow negative hn 1, hc]
    · rfl

theorem two_pow_le_ten_pow : 2 ^ 1074 ≤ 10 ^ 330 ∧ 2 ^ 1024 < 10 ^ 309 := by
  decide +kernel

/-- The doubles reach from the 1074th negative power of two to the 1024th power of two. -/
theorem value_bounds {x : Binary64} (hx : x.Canonical) (hm : x.mantissa ≠ 0) :
    (10 : ℚ) ^ (-330 : Int) ≤ x.value ∧ x.value < (10 : ℚ) ^ (309 : Int) := by
  constructor
  · have hm0 : (1 : ℚ) ≤ x.mantissa := by exact_mod_cast Nat.pos_of_ne_zero hm
    have hpow : (2 : ℚ) ^ (1074 : Nat) ≤ 10 ^ (330 : Nat) := by
      exact_mod_cast two_pow_le_ten_pow.1
    calc (10 : ℚ) ^ (-330 : Int) ≤ 2 ^ (-1074 : Int) := by
          rw [zpow_neg, zpow_neg]
          exact inv_anti₀ (by positivity) (by exact_mod_cast hpow)
      _ ≤ 2 ^ x.exponent := zpow_le_zpow_right₀ (by norm_num) hx.exponent.1
      _ ≤ x.value := le_mul_of_one_le_left (by positivity) hm0
  · have hm1 : (x.mantissa : ℚ) < 2 ^ (53 : Int) := by
      have : (x.mantissa : ℚ) < (2 * hidden : Nat) := by exact_mod_cast hx.mantissa
      apply this.trans_eq
      norm_num [hidden]
    have he : (2 : ℚ) ^ x.exponent ≤ 2 ^ (971 : Int) :=
      zpow_le_zpow_right₀ (by norm_num) hx.exponent.2
    have hpow : (2 : ℚ) ^ (1024 : Nat) < 10 ^ (309 : Nat) := by
      exact_mod_cast two_pow_le_ten_pow.2
    calc x.value < 2 ^ (53 : Int) * 2 ^ (971 : Int) :=
          mul_lt_mul hm1 he (by positivity) (by positivity)
      _ = 2 ^ (1024 : Int) := (zpow_add₀ (by norm_num) _ _).symm
      _ < 10 ^ (309 : Int) := by exact_mod_cast hpow

/-- A decimal lies between the powers of ten that its width gives. -/
theorem decimal_value_bounds {c : Decimal} (hc : c.digits ≠ 0) :
    (10 : ℚ) ^ ((Decimal.width c.digits : Int) - 1 + c.exponent) ≤ c.value ∧
      c.value < (10 : ℚ) ^ ((Decimal.width c.digits : Int) + c.exponent) := by
  have hw := Decimal.width_pos c.digits
  have hlow := Decimal.pow_le_of_lt_width (by omega : Decimal.width c.digits - 1 < _)
    (Nat.pos_of_ne_zero hc)
  have hhigh := Decimal.lt_pow_width c.digits
  have hsub : (Decimal.width c.digits : Int) - 1 = ((Decimal.width c.digits - 1 : Nat) : Int) := by
    omega
  constructor
  · rw [hsub, Decimal.value, zpow_add₀ (by norm_num), zpow_natCast]
    gcongr
    exact_mod_cast hlow
  · rw [Decimal.value, zpow_add₀ (by norm_num), zpow_natCast]
    gcongr
    exact_mod_cast hhigh

theorem inFull_value (x : Binary64) : x.inFull.value = x.value := by
  unfold inFull Decimal.value value
  split
  · next he =>
    obtain ⟨k, hk⟩ := Int.eq_ofNat_of_zero_le he
    rw [hk, Int.toNat_natCast, zpow_natCast, zpow_zero, mul_one]
    exact_mod_cast rfl
  · next he =>
    obtain ⟨k, hk⟩ := Int.eq_ofNat_of_zero_le (by omega : 0 ≤ -x.exponent)
    have hk' : x.exponent = -(k : Int) := by omega
    rw [hk, hk', Int.toNat_natCast, zpow_neg, zpow_natCast, zpow_neg, zpow_natCast]
    show ((x.mantissa * 5 ^ k : Nat) : ℚ) * _ = _
    rw [Nat.cast_mul, Nat.cast_pow, Nat.cast_ofNat, show (10 : ℚ) = 5 * 2 by norm_num, mul_pow,
      mul_inv, mul_assoc, mul_inv_cancel_left₀ (by positivity)]

/-- A double is read from its value written out in full. -/
theorem ofDecimal?_inFull {x : Binary64} (hx : x.Canonical) (hm : x.mantissa ≠ 0) :
    ofDecimal? x.negative x.inFull = some x := by
  obtain ⟨hleast, hlargest⟩ := value_bounds hx hm
  have hdigits : x.inFull.digits ≠ 0 := by
    intro h0
    have hv : x.value = 0 := by rw [← inFull_value, Decimal.value, h0, Nat.cast_zero, zero_mul]
    have : (0 : ℚ) < 10 ^ (-330 : Int) := by positivity
    linarith
  obtain ⟨hbelow, habove⟩ := decimal_value_bounds hdigits
  rw [inFull_value] at hbelow habove
  have hlow := (zpow_lt_zpow_iff_right₀ (by norm_num)).1 (hleast.trans_lt habove)
  have hhigh := (zpow_lt_zpow_iff_right₀ (by norm_num)).1 (hbelow.trans_lt hlargest)
  have hexact := ofRatio?_exact hx hm (unscale_den_pos x.inFull.digits
    (-x.inFull.exponent) (by decide : 0 < 10) Nat.one_pos)
    ((unscale_decimal_value x.inFull).trans (inFull_value x))
  simp only [ofDecimal?]
  rw [if_neg (by omega), if_neg (by omega), hexact]

/-- A double is read back from its shortest decimal. -/
theorem ofDecimal?_shortest {x : Binary64} (hx : x.Canonical) :
    ofDecimal? x.negative x.shortest = some x := by
  unfold shortest
  split
  · next hm =>
    have he : x.exponent = minExponent := by
      refine hx.full.resolve_left fun h => ?_
      rw [hm] at h
      exact absurd h (by decide)
    have hx0 : x = ⟨x.negative, 0, minExponent⟩ := by rw [← hm, ← he]
    rw [hx0]
    rfl
  · next hm =>
    simp only [Decimal.normalize, ofDecimal?_stripZeros]
    cases h : (List.range 17).findSome? fun (k : Nat) =>
        x.onGrid? (leadingPlace x.ratio.1 x.ratio.2 - k) with
    | none => exact ofDecimal?_inFull hx hm
    | some c =>
      obtain ⟨k, -, hk⟩ := List.exists_of_findSome?_eq_some h
      unfold onGrid? at hk
      simpa using List.find?_some hk

end Binary64

end CampusView.Json
