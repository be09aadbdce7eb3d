import CampusView.Json.Token
import Mathlib.Algebra.Ring.Nat

/-!
# Decimal digits

`Number.natChars` writes a natural number and `Number.ofDigits` reads one. A number that is not zero
starts with a digit that is not zero, and zeros at its end are factors of ten.
-/

namespace CampusView.Json

namespace Number

/-! ### Values -/

theorem ofDigits_eq (cs : List Char) : ofDigits cs = Nat.ofDigitChars 10 cs 0 := by
  rw [Nat.ofDigitChars_eq_foldl]
  rfl

theorem ofDigits_append (cs ds : List Char) :
    ofDigits (cs ++ ds) = 10 ^ ds.length * ofDigits cs + ofDigits ds := by
  rw [ofDigits_eq, ofDigits_eq, ofDigits_eq, Nat.ofDigitChars_append,
    Nat.ofDigitChars_eq_ofDigitChars_zero]

@[simp] theorem ofDigits_natChars (n : Nat) : ofDigits (natChars n) = n := by
  rw [ofDigits_eq]
  exact Nat.ofDigitChars_ten_toDigits

@[simp] theorem ofDigits_replicate_zero (k : Nat) : ofDigits (List.replicate k '0') = 0 := by
  rw [ofDigits_eq, Nat.ofDigitChars_replicate_zero, Nat.mul_zero]

/-! ### Characters -/

theorem isDigit_of_mem_natChars {n : Nat} {c : Char} (h : c ∈ natChars n) : isDigit c :=
  Nat.isDigit_of_mem_toDigits (by decide) (by decide) h

@[simp] theorem natChars_ne_nil (n : Nat) : natChars n ≠ [] := Nat.toDigits_ne_nil

theorem natChars_zero : natChars 0 = ['0'] := Nat.toDigits_zero 10

theorem natChars_mul_ten {n : Nat} (h : 0 < n) : natChars (n * 10) = natChars n ++ ['0'] := by
  have h0 := Nat.toDigits_append_toDigits (b := 10) (by decide) h (by decide : 0 < 10)
  rw [Nat.toDigits_zero, Nat.add_zero, Nat.mul_comm] at h0
  exact h0.symm

theorem natChars_mul_pow {n : Nat} (h : 0 < n) (k : Nat) :
    natChars (n * 10 ^ k) = natChars n ++ List.replicate k '0' := by
  induction k with
  | zero => simp
  | succ k ih =>
    have hk : 0 < n * 10 ^ k := Nat.mul_pos h (Nat.pow_pos (by decide))
    rw [Nat.pow_succ, ← Nat.mul_assoc, natChars_mul_ten hk, ih, List.append_assoc,
      List.replicate_succ']

/-- Digits that start with another digit than zero. -/
def Leading (ds : List Char) : Prop :=
  ∃ c cs, ds = c :: cs ∧ c ≠ '0' ∧ isDigit c ∧ cs.all isDigit

theorem Leading.append {ds es : List Char} (h : Leading ds) (hes : es.all isDigit) :
    Leading (ds ++ es) := by
  obtain ⟨c, cs, rfl, hc, hd, hcs⟩ := h
  exact ⟨c, cs ++ es, rfl, hc, hd, by rw [List.all_append, hcs, hes]; rfl⟩

theorem Leading.take {ds : List Char} (h : Leading ds) {k : Nat} (hk : 0 < k) :
    Leading (ds.take k) := by
  obtain ⟨c, cs, rfl, hc, hd, hcs⟩ := h
  obtain ⟨k, rfl⟩ := Nat.exists_eq_succ_of_ne_zero (Nat.pos_iff_ne_zero.1 hk)
  rw [List.all_eq_true] at hcs
  exact ⟨c, cs.take k, rfl, hc, hd, List.all_eq_true.2 fun e he => hcs e (List.mem_of_mem_take he)⟩

/-- A number that is not zero starts with another digit than zero. -/
theorem leading_natChars {n : Nat} (h : 0 < n) : Leading (natChars n) := by
  unfold Leading
  have hdigits := fun c => @isDigit_of_mem_natChars n c
  induction n using Nat.strongRecOn with
  | ind n ih =>
    unfold natChars at *
    rw [Nat.toDigits_eq_if (by decide)] at hdigits ⊢
    split at hdigits
    · next hn =>
      rw [if_pos hn]
      refine ⟨_, _, rfl, fun h0 => ?_, hdigits _ (by simp), rfl⟩
      have hv := congrArg Char.toNat h0
      rw [Nat.toNat_digitChar_of_lt_ten hn] at hv
      have : (48 + n) = 48 := hv
      omega
    · next hn =>
      rw [if_neg hn]
      obtain ⟨c, cs, hcs, hc, hd, ha⟩ := ih (n / 10) (by omega) (by omega) fun c hm =>
        hdigits c (List.mem_append_left _ hm)
      refine ⟨c, _, by rw [hcs, List.cons_append], hc, hd, ?_⟩
      rw [List.all_append, ha, Bool.true_and, List.all_cons, List.all_nil, Bool.and_true]
      exact hdigits _ (List.mem_append_right _ (List.mem_singleton.2 rfl))

end Number

/-! ### How many digits -/

namespace Decimal

theorem width_eq (n : Nat) : width n = (Number.natChars n).length := rfl

theorem width_pos (n : Nat) : 0 < width n := Nat.length_toDigits_pos

theorem width_mul_pow {n : Nat} (h : 0 < n) (k : Nat) : width (n * 10 ^ k) = width n + k := by
  rw [width_eq, Number.natChars_mul_pow h, List.length_append, List.length_replicate]
  rfl

theorem lt_pow_width (n : Nat) : n < 10 ^ width n :=
  (Nat.length_toDigits_le_iff (by decide) (width_pos n)).1 (Nat.le_refl _)

theorem pow_le_of_lt_width {n k : Nat} (hk : k < width n) (hn : 0 < n) : 10 ^ k ≤ n := by
  by_cases h0 : k = 0
  · rw [h0]
    exact hn
  · have hle := mt (Nat.length_toDigits_le_iff (b := 10) (n := n) (by decide) (by omega : 0 < k)).2
    unfold width at hk
    omega

end Decimal

end CampusView.Json
