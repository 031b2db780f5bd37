import Mathlib.Algebra.Order.Field.Power
import Mathlib.Tactic.Positivity
import Mathlib.Tactic.Ring
import VmScan.Proofs.Number.Binary64

/-!
# The range of rounded numbers

Rounding gives numbers of the format only: a significand below `2 ^ 53` and an exponent of at most
`maxExponent`. So an integer among them is below the bound from which on integers have no finite
nearest number.

* `Binary64.InFormat` — a finite number is within the format.

Results:
* `lt_floorLog2`: a quotient is below the power of two behind its logarithm.
* `inFormat_nearest`, `inFormat_ofDecimal`: rounding stays within the format.
* `InFormat.fits`: an integer within the format is within its range.
-/

namespace VmScan.Number.Binary64

/-- A finite number is within the format. -/
def InFormat : Binary64 → Prop
  | .finite _ m e => m < 2 ^ 53 ∧ e ≤ maxExponent
  | _ => True

/-! ## Logarithms -/

theorem zpow_mul_pow_toNat {base : ℚ} (hbase : base ≠ 0) (e : Int) :
    base ^ e * base ^ (-e).toNat = base ^ e.toNat := by
  rcases Int.le_total 0 e with h | h
  · obtain ⟨k, rfl⟩ := Int.eq_ofNat_of_zero_le h
    simp
  · obtain ⟨k, hk⟩ := Int.eq_ofNat_of_zero_le (Int.neg_nonneg_of_nonpos h)
    obtain rfl : e = -(k : Int) := by omega
    simp [hbase]

/-- A quotient is below the power of two behind its logarithm. -/
theorem lt_floorLog2 {num den : Nat} (hden : den ≠ 0) :
    (num : ℚ) < den * 2 ^ (floorLog2 num den + 1) := by
  have hlow : (2 : ℚ) ^ den.log2 ≤ den := by exact_mod_cast Nat.log2_self_le hden
  have hhigh : (num : ℚ) < 2 ^ (num.log2 + 1) := by exact_mod_cast Nat.lt_log2_self
  simp only [floorLog2, Nat.pow_eq]
  split_ifs with hle
  · have hpow : (2 : ℚ) ^ (num.log2 + 1)
        = 2 ^ den.log2 * 2 ^ ((num.log2 : Int) - den.log2 + 1) := by
      rw [← zpow_natCast, ← zpow_natCast, ← zpow_add₀ (by norm_num)]
      congr 1
      push_cast
      omega
    rw [hpow] at hhigh
    exact lt_of_lt_of_le hhigh (mul_le_mul_of_nonneg_right hlow (by positivity))
  · generalize (num.log2 : Int) - den.log2 = estimate at hle ⊢
    have hlt : (num : ℚ) * 2 ^ (-estimate).toNat < den * 2 ^ estimate.toNat := by
      exact_mod_cast Nat.not_le.mp hle
    rw [← zpow_mul_pow_toNat two_ne_zero estimate, ← mul_assoc] at hlt
    rw [Int.sub_add_cancel]
    exact lt_of_mul_lt_mul_right hlt (by positivity)

/-! ## Rounding -/

/-- At the exponent that rounding takes, a quotient has no more than 53 binary digits. -/
theorem roundRatio_nearest_le {num den : Nat} (hden : den ≠ 0) {e : Int}
    (he : floorLog2 num den - 52 ≤ e) :
    roundRatio (num * 2 ^ (-e).toNat) (den * 2 ^ e.toNat) ≤ 2 ^ 53 := by
  have hscaled : num * 2 ^ (-e).toNat < 2 ^ 53 * (den * 2 ^ e.toNat) := by
    have hpow : (2 : ℚ) ^ (floorLog2 num den + 1) ≤ 2 ^ (e + 53) :=
      zpow_le_zpow_right₀ (by norm_num) (by omega)
    have hlt : (num : ℚ) < den * 2 ^ (e + 53) :=
      lt_of_lt_of_le (lt_floorLog2 hden) (mul_le_mul_of_nonneg_left hpow (by positivity))
    have hmul : (num : ℚ) * 2 ^ (-e).toNat < 2 ^ 53 * (den * 2 ^ e.toNat) := by
      calc (num : ℚ) * 2 ^ (-e).toNat < den * 2 ^ (e + 53) * 2 ^ (-e).toNat :=
            mul_lt_mul_of_pos_right hlt (by positivity)
        _ = 2 ^ 53 * (den * 2 ^ e.toNat) := by
            have hsplit : (2 : ℚ) ^ (e + 53) = 2 ^ e * 2 ^ 53 := zpow_add₀ (by norm_num) e 53
            rw [hsplit, ← zpow_mul_pow_toNat two_ne_zero e]
            ring
    exact_mod_cast hmul
  have hquotient : num * 2 ^ (-e).toNat / (den * 2 ^ e.toNat) < 2 ^ 53 :=
    (Nat.div_lt_iff_lt_mul (by positivity)).mpr hscaled
  have hround := roundRatio_le (num * 2 ^ (-e).toNat) (den * 2 ^ e.toNat)
  omega

theorem inFormat_ofParts (negative : Bool) {m : Nat} (h : m ≤ 2 ^ 53) (e : Int) :
    (ofParts negative m e).InFormat := by
  have hfinite : ∀ (m : Nat) (e : Int), m < 2 ^ 53 →
      (if maxExponent < e then infinity negative else finite negative m e).InFormat := by
    intro m e hm
    split_ifs with hover
    · exact trivial
    · exact ⟨hm, by omega⟩
  by_cases hm : m = 2 ^ 53
  · rw [hm, ofParts_carry]
    exact hfinite _ _ (by norm_num)
  · rw [ofParts_of_ne negative hm]
    exact hfinite m e (by omega)

theorem inFormat_zero (negative : Bool) : (zero negative).InFormat :=
  ⟨by norm_num, by decide⟩

/-- Rounding stays within the format. -/
theorem inFormat_nearest (negative : Bool) (num : Nat) {den : Nat} (hden : den ≠ 0) :
    (nearest negative num den).InFormat := by
  unfold nearest
  split_ifs with hzero
  · exact inFormat_zero negative
  · exact inFormat_ofParts negative (roundRatio_nearest_le hden (le_max_left _ _)) _

/-- Reading a decimal number stays within the format. -/
theorem inFormat_ofDecimal (negative : Bool) (digits : Nat) (exponent : Int) :
    (ofDecimal negative digits exponent).InFormat := by
  unfold ofDecimal
  simp only
  split_ifs
  · exact inFormat_zero negative
  · exact trivial
  · exact inFormat_zero negative
  · exact inFormat_nearest negative _ (Nat.pow_pos (by decide)).ne'

/-! ## Integers -/

/-- **An integer within the format is within its range.** -/
theorem InFormat.fits {x : Binary64} (h : x.InFormat) {n : Int} (hn : x.toInt? = some n) :
    fitsBinary64 n = true := by
  cases x with
  | nan => cases hn
  | infinity negative => cases hn
  | finite negative m e =>
    obtain ⟨hm, he⟩ := h
    simp only [toInt?, Option.ite_none_right_eq_some, Option.some.injEq] at hn
    obtain ⟨-, rfl⟩ := hn
    have hexponent : e.toNat ≤ 971 := by
      rw [maxExponent] at he
      omega
    have hbase : 1 ≤ 2 := by decide
    have hpow : 2 ^ e.toNat ≤ 2 ^ 971 := pow_le_pow_right₀ hbase hexponent
    have hmul : m * 2 ^ e.toNat ≤ (2 ^ 53 - 1) * 2 ^ 971 := Nat.mul_le_mul (by omega) hpow
    have hbound : (2 ^ 53 - 1) * 2 ^ 971 < binary64Bound := by decide +kernel
    rw [fitsBinary64, decide_eq_true_eq, natAbs_signed, ratio, Nat.pow_eq, Nat.pow_eq]
    exact lt_of_le_of_lt (le_trans (Nat.div_le_self _ _) hmul) hbound

end VmScan.Number.Binary64
