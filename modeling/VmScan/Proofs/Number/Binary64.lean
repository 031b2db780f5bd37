import Mathlib.Algebra.Order.Field.Basic
import Mathlib.Data.Rat.Cast.Order
import Mathlib.Tactic.FieldSimp
import Mathlib.Tactic.NormNum
import VmScan.Number.Binary64

/-!
# Integers among the binary64 numbers

* `Binary64.toRat?` — the rational number that a finite number is.

Results:
* `toInt?_eq_some_iff`: the integer that a number is read as is the number.
* `nearest_isInteger_iff`: the number nearest to an integer is finite exactly below
  `binary64Bound`, and is then an integer.
-/

namespace VmScan.Number

theorem roundRatio_one (n : Nat) : roundRatio n 1 = n := by
  simp [roundRatio, Nat.mod_one]

theorem roundRatio_le (num den : Nat) : roundRatio num den ≤ num / den + 1 := by
  simp only [roundRatio]
  split_ifs <;> omega

/-- Rounding carries to the next power of two from halfway below it on. -/
theorem roundRatio_eq_pow_iff {n d : Nat} (hd : 0 < d) (hlt : n < 2 ^ 54 * d) :
    roundRatio n (2 * d) = 2 ^ 53 ↔ (2 ^ 54 - 1) * d ≤ n := by
  have hdiv : 2 * d * (n / (2 * d)) + n % (2 * d) = n := Nat.div_add_mod n (2 * d)
  have hmod : n % (2 * d) < 2 * d := Nat.mod_lt n (by omega)
  have hquotient : n / (2 * d) < 2 ^ 53 := (Nat.div_lt_iff_lt_mul (by omega)).mpr (by omega)
  rw [Nat.sub_mul, Nat.one_mul]
  rcases Nat.lt_or_ge (n / (2 * d) + 1) (2 ^ 53) with hbelow | hlast
  · have hround := roundRatio_le n (2 * d)
    have hn : 2 * d * (n / (2 * d) + 2) ≤ 2 * d * 2 ^ 53 := Nat.mul_le_mul_left _ (by omega)
    rw [Nat.mul_add] at hn
    omega
  · have hn : 2 * d * (n / (2 * d) + 1) = 2 * d * 2 ^ 53 := by
      rw [show n / (2 * d) + 1 = 2 ^ 53 by omega]
    rw [Nat.mul_add] at hn
    simp only [roundRatio]
    split_ifs <;> omega

namespace Binary64

/-- The rational number that a finite number is. -/
def toRat? : Binary64 → Option ℚ
  | .finite negative m e => some ((if negative then -1 else 1) * (m * 2 ^ e))
  | _ => none

theorem ratio_den_pos (m : Nat) (e : Int) : 0 < (ratio m e).2 :=
  Nat.two_pow_pos _

theorem ratio_eq (m : Nat) (e : Int) :
    (m : ℚ) * 2 ^ e = ((ratio m e).1 : ℚ) / ((ratio m e).2 : ℚ) := by
  rcases le_total 0 e with h | h
  · obtain ⟨k, rfl⟩ := Int.eq_ofNat_of_zero_le h
    simp [ratio]
  · obtain ⟨k, hk⟩ := Int.eq_ofNat_of_zero_le (Int.neg_nonneg_of_nonpos h)
    obtain rfl : e = -(k : Int) := by omega
    simp [ratio, div_eq_mul_inv]

theorem natAbs_signed (negative : Bool) (n : Nat) : (signed negative n).natAbs = n := by
  cases negative <;> simp [signed]

theorem signed_mul (negative : Bool) (a b : Nat) :
    signed negative (a * b) = signed negative a * b := by
  cases negative <;> simp [signed]

theorem signed_eq_mul_iff (negative : Bool) {num den : Nat} (hden : 0 < den) (n : Int) :
    signed negative num = n * den ↔ num % den = 0 ∧ signed negative (num / den) = n := by
  constructor
  · intro h
    have hnum : num = n.natAbs * den := by
      rw [← natAbs_signed negative num, h, Int.natAbs_mul, Int.natAbs_natCast]
    have hdiv : num / den = n.natAbs := by rw [hnum, Nat.mul_div_cancel _ hden]
    refine ⟨by rw [hnum, Nat.mul_mod_left], ?_⟩
    rw [hdiv]
    rw [hnum, signed_mul] at h
    exact Int.eq_of_mul_eq_mul_right (by omega) h
  · rintro ⟨hmod, rfl⟩
    rw [← signed_mul, Nat.div_mul_cancel (Nat.dvd_of_mod_eq_zero hmod)]

/-- The integer that a number is read as is the number. -/
theorem toInt?_eq_some_iff (x : Binary64) (n : Int) :
    x.toInt? = some n ↔ x.toRat? = some (n : ℚ) := by
  cases x with
  | nan => simp [toInt?, toRat?]
  | infinity negative => simp [toInt?, toRat?]
  | finite negative m e =>
    have hden : ((ratio m e).2 : ℚ) ≠ 0 := Nat.cast_ne_zero.mpr (ratio_den_pos m e).ne'
    have hvalue : toRat? (.finite negative m e) = some (n : ℚ) ↔
        signed negative (ratio m e).1 = n * (ratio m e).2 := by
      rw [toRat?, Option.some.injEq, ratio_eq, ← @Int.cast_inj ℚ]
      cases negative
      · simp [signed, div_eq_iff hden]
      · simp [signed, ← neg_div, div_eq_iff hden]
    rw [hvalue, signed_eq_mul_iff negative (ratio_den_pos m e)]
    simp [toInt?]

/-! ## The number nearest to an integer -/

theorem floorLog2_one {n : Nat} (h : n ≠ 0) : floorLog2 n 1 = n.log2 := by
  have hlog : Nat.log2 1 = 0 := by decide
  have hle : 2 ^ n.log2 ≤ n := Nat.log2_self_le h
  simp only [floorLog2, hlog, Int.natCast_zero, Int.sub_zero, Int.toNat_natCast, one_mul]
  rw [if_pos (by simpa using hle)]

theorem isInteger_finite (negative : Bool) (m : Nat) {e : Int} (he : 0 ≤ e) :
    ∃ k, (finite negative m e).toInt? = some k := by
  obtain ⟨k, rfl⟩ := Int.eq_ofNat_of_zero_le he
  exact ⟨signed negative (m * 2 ^ k), by simp [toInt?, ratio, Nat.mod_one]⟩

theorem ofParts_carry (negative : Bool) (e : Int) :
    ofParts negative (2 ^ 53) e
      = if maxExponent < e + 1 then infinity negative else finite negative (2 ^ 52) (e + 1) := by
  unfold ofParts
  rw [Nat.pow_eq, if_pos rfl]
  rfl

theorem ofParts_of_ne (negative : Bool) {m : Nat} (h : m ≠ 2 ^ 53) (e : Int) :
    ofParts negative m e
      = if maxExponent < e then infinity negative else finite negative m e := by
  unfold ofParts
  rw [Nat.pow_eq, if_neg h]

/-- Rounded to an exponent that is not negative, a number is an integer or beyond the format. -/
theorem ofParts_isInteger_iff (negative : Bool) (m : Nat) {e : Int} (he : 0 ≤ e) :
    (∃ k, (ofParts negative m e).toInt? = some k) ↔
      (if m = 2 ^ 53 then e + 1 else e) ≤ maxExponent := by
  have hfinite : ∀ (m : Nat) {e : Int}, 0 ≤ e →
      ((∃ k, (if maxExponent < e then infinity negative else finite negative m e).toInt? = some k)
        ↔ e ≤ maxExponent) := by
    intro m e he
    split_ifs with hover
    · simp [toInt?, hover]
    · exact iff_of_true (isInteger_finite negative m he) (by omega)
  by_cases hm : m = 2 ^ 53
  · rw [if_pos hm, hm, ofParts_carry]
    exact hfinite _ (by omega)
  · rw [if_neg hm, ofParts_of_ne negative hm]
    exact hfinite m he

theorem nearest_one {negative : Bool} {n : Nat} (h : n ≠ 0) :
    nearest negative n 1
      = ofParts negative (roundRatio (n * 2 ^ (52 - n.log2)) (2 ^ (n.log2 - 52)))
        (n.log2 - 52) := by
  have hexponent : max (((n.log2 : Nat) : Int) - 52) minExponent = n.log2 - 52 :=
    max_eq_left (by rw [minExponent]; omega)
  have hneg : (-((n.log2 : Int) - 52)).toNat = 52 - n.log2 := by omega
  have hpos : ((n.log2 : Int) - 52).toNat = n.log2 - 52 := by omega
  simp only [nearest, if_neg h, floorLog2_one h, hexponent, hneg, hpos, one_mul, Nat.pow_eq]

/-- In the last binade, rounding up to its end is rounding beyond the format. -/
theorem roundRatio_last_iff {n : Nat} (h : n < 2 ^ 1024) :
    roundRatio n (2 ^ 971) = 2 ^ 53 ↔ binary64Bound ≤ n := by
  obtain ⟨d, hd⟩ : ∃ d : Nat, d = 2 ^ 970 := ⟨_, rfl⟩
  have hbound : binary64Bound = (2 ^ 54 - 1) * d := by rw [hd]; decide +kernel
  have hden : 2 ^ 971 = 2 * d := by rw [hd]; decide +kernel
  have hend : 2 ^ 1024 = 2 ^ 54 * d := by rw [hd]; decide +kernel
  rw [hden, hbound]
  exact roundRatio_eq_pow_iff (by rw [hd]; positivity) (hend ▸ h)

/-- Below `2 ^ 53` an integer is its own nearest number. -/
theorem nearest_isInteger_of_log2_le (negative : Bool) {n : Nat} (hn : n ≠ 0)
    (hlog : n.log2 ≤ 52) : ∃ k, (nearest negative n 1).toInt? = some k := by
  have hlt : n * 2 ^ (52 - n.log2) < 2 ^ 53 := by
    calc n * 2 ^ (52 - n.log2) < 2 ^ (n.log2 + 1) * 2 ^ (52 - n.log2) :=
          Nat.mul_lt_mul_of_pos_right Nat.lt_log2_self (Nat.two_pow_pos _)
      _ = 2 ^ 53 := by rw [← pow_add]; congr 1; omega
  have hsub : n.log2 - 52 = 0 := by omega
  have hneg : (-((n.log2 : Int) - 52)).toNat = 52 - n.log2 := by omega
  have hpos : ((n.log2 : Int) - 52).toNat = 0 := by omega
  have hexponent : ¬ maxExponent < (n.log2 : Int) - 52 := by rw [maxExponent]; omega
  refine ⟨signed negative n, ?_⟩
  rw [nearest_one hn, hsub, pow_zero, roundRatio_one, ofParts_of_ne negative hlt.ne,
    if_neg hexponent]
  simp only [toInt?, ratio, hneg, hpos, Nat.pow_eq, pow_zero, mul_one, Nat.mul_mod_left, if_true,
    Nat.mul_div_cancel _ (Nat.two_pow_pos _)]

/-- **The number nearest to an integer is an integer exactly below the bound**, and is beyond the
format from there on. -/
theorem nearest_isInteger_iff (negative : Bool) (n : Nat) :
    (∃ k, (nearest negative n 1).toInt? = some k) ↔ n < binary64Bound := by
  rcases Nat.eq_zero_or_pos n with rfl | hpos
  · exact iff_of_true ⟨signed negative 0, by simp [nearest, zero, toInt?, ratio]⟩
      (by decide +kernel)
  have hn : n ≠ 0 := hpos.ne'
  have hlow : 2 ^ n.log2 ≤ n := Nat.log2_self_le hn
  have hhigh : n < 2 ^ (n.log2 + 1) := Nat.lt_log2_self
  rcases Nat.lt_or_ge 52 n.log2 with hlarge | hsmall
  · have hexponent : (0 : Int) ≤ n.log2 - 52 := by omega
    have hsub : 52 - n.log2 = 0 := by omega
    rw [nearest_one hn, hsub, pow_zero, mul_one, ofParts_isInteger_iff negative _ hexponent,
      maxExponent]
    rcases Nat.lt_trichotomy n.log2 1023 with hbelow | hlast | habove
    · have hbound : 2 ^ (n.log2 + 1) ≤ binary64Bound :=
        Nat.le_trans (Nat.pow_le_pow_right (by decide) (by omega : n.log2 + 1 ≤ 1023))
          (by decide +kernel)
      refine iff_of_true ?_ (Nat.lt_of_lt_of_le hhigh hbound)
      split_ifs <;> omega
    · have hend : n < 2 ^ 1024 := by simpa only [hlast, Nat.reduceAdd] using hhigh
      have hexp : 1023 - 52 = 971 := by decide
      rw [hlast, hexp, ← Nat.not_le, ← roundRatio_last_iff hend]
      split_ifs with hr
      · exact iff_of_false (by decide) (not_not_intro hr)
      · exact iff_of_true (by decide) hr
    · have hbound : binary64Bound ≤ 2 ^ n.log2 :=
        Nat.le_trans (by decide +kernel)
          (Nat.pow_le_pow_right (by decide) (by omega : 1024 ≤ n.log2))
      refine iff_of_false ?_ (Nat.not_lt.mpr (Nat.le_trans hbound hlow))
      split_ifs <;> omega
  · refine iff_of_true (nearest_isInteger_of_log2_le negative hn hsmall) ?_
    exact Nat.lt_of_lt_of_le hhigh
      (Nat.le_trans (Nat.pow_le_pow_right (by decide) (by omega : n.log2 + 1 ≤ 53))
        (by decide +kernel))

end Binary64

end VmScan.Number
