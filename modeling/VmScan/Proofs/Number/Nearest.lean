import Mathlib.Tactic.Linarith
import Mathlib.Tactic.LinearCombination
import VmScan.Proofs.Number.Range

/-!
# Rounding to the nearest number

What it means that a number of the format is the nearest one to a rational, stated with no mention
of how it is found, and that the rounding of quotients and of decimal numbers finds it, over the
whole range: subnormal numbers, a carry to the next exponent, and the end of the format.

* `Representable` — the rationals of the finite numbers of the format.
* `Canonical` — a significand and exponent that write a number in the only way.
* `Nearest` — to the nearest, a tie to the even significand, and from `binary64Bound` on to an
  infinity.
* `Rounded` — a rational is rounded to a multiple of a power of two that leaves 53 binary digits.

Results:
* `Nearest.unique`: there is one nearest number.
* `nearest_nearest`, `nearest_ofDecimal`: quotients and decimal numbers are rounded to it.
* `Nearest.eq_of_representable`: a rational of the format is its own nearest number.
-/

namespace VmScan.Number.Binary64

/-! ## The nearest number -/

/-- The rational is that of a finite number of the format. -/
def Representable (r : ℚ) : Prop :=
  ∃ m e : ℤ, |m| < 2 ^ 53 ∧ minExponent ≤ e ∧ e ≤ maxExponent ∧ r = m * 2 ^ e

/-- The significand has 53 binary digits, or fewer at the least exponent. -/
structure Canonical (m : Nat) (e : Int) : Prop where
  significand_lt : m < 2 ^ 53
  exponent_ge : minExponent ≤ e
  exponent_le : e ≤ maxExponent
  full : e = minExponent ∨ 2 ^ 52 ≤ m

/-- The sign as a factor. -/
def sign (negative : Bool) : ℚ :=
  if negative then -1 else 1

/-- The rational of a finite number. -/
def rational (negative : Bool) (m : Nat) (e : Int) : ℚ :=
  sign negative * (m * 2 ^ e)

/-- The number is the nearest one to the rational. A tie goes to the even significand, and from
halfway behind the greatest finite number on the nearest number is an infinity. -/
inductive Nearest (q : ℚ) : Binary64 → Prop where
  | finite {negative : Bool} {m : Nat} {e : Int} (hbound : |q| < binary64Bound)
      (hcanonical : Canonical m e)
      (hclosest : ∀ r, Representable r → |q - rational negative m e| ≤ |q - r|)
      (heven : ∀ r, Representable r → r ≠ rational negative m e →
        |q - rational negative m e| = |q - r| → Even m) :
      Nearest q (.finite negative m e)
  | infinity {negative : Bool} (hbound : binary64Bound ≤ |q|) (hsign : negative = decide (q < 0)) :
      Nearest q (.infinity negative)

theorem sign_cases (negative : Bool) : sign negative = 1 ∨ sign negative = -1 := by
  cases negative
  · exact Or.inl rfl
  · exact Or.inr rfl

theorem abs_sign (negative : Bool) : |sign negative| = 1 := by
  rcases sign_cases negative with h | h <;> rw [h] <;> norm_num

theorem sign_mul_sign_mul (negative : Bool) (r : ℚ) :
    sign negative * (sign negative * r) = r := by
  rcases sign_cases negative with h | h <;> rw [h] <;> ring

theorem abs_sign_mul_sub (negative : Bool) (a r : ℚ) :
    |sign negative * a - sign negative * r| = |a - r| := by
  rw [← mul_sub, abs_mul, abs_sign, one_mul]

theorem rational_eq_signed (negative : Bool) (m : Nat) (e : Int) :
    rational negative m e = signed negative m * 2 ^ e := by
  cases negative <;> simp [rational, sign, signed]

theorem Canonical.representable (negative : Bool) {m : Nat} {e : Int} (h : Canonical m e) :
    Representable (rational negative m e) := by
  refine ⟨signed negative m, e, ?_, h.exponent_ge, h.exponent_le, rational_eq_signed negative m e⟩
  rw [Int.abs_eq_natAbs, natAbs_signed]
  exact_mod_cast h.significand_lt

theorem Representable.sign_mul {r : ℚ} (h : Representable r) (negative : Bool) :
    Representable (sign negative * r) := by
  obtain ⟨m, e, hm, hge, hle, rfl⟩ := h
  rcases sign_cases negative with hsign | hsign
  · exact ⟨m, e, hm, hge, hle, by rw [hsign, one_mul]⟩
  · exact ⟨-m, e, by rwa [abs_neg], hge, hle, by rw [hsign]; push_cast; ring⟩

/-- Integers of up to 53 binary digits are in the format. -/
theorem representable_int {n : ℤ} (h : |n| ≤ 2 ^ 53) : Representable n := by
  rcases h.lt_or_eq with hlt | heq
  · exact ⟨n, 0, hlt, by decide, by decide, by simp⟩
  · rcases (abs_eq (by norm_num)).mp heq with rfl | rfl
    · exact ⟨2 ^ 52, 1, by norm_num, by decide, by decide, by norm_num⟩
    · exact ⟨-2 ^ 52, 1, by norm_num, by decide, by decide, by norm_num⟩

/-- A multiple of a power of two is one of every smaller power. -/
theorem mul_zpow_of_le (k : ℤ) {e f : ℤ} (h : e ≤ f) :
    (k : ℚ) * 2 ^ f = (k * 2 ^ (f - e).toNat : ℤ) * 2 ^ e := by
  rw [Int.cast_mul, mul_assoc, Int.cast_pow, Int.cast_ofNat, ← zpow_natCast,
    ← zpow_add₀ (by norm_num)]
  congr 2
  omega

/-! ## There is one nearest number -/

/-- One step from an even significand towards another even one leads closer to their middle. -/
theorem step_closer {m k step : ℤ} {u q : ℚ} (hu : 0 < u) (hstep : step = 1 ∨ step = -1)
    (htowards : 2 ≤ step * (k - m)) (htie : |q - m * u| = |q - k * u|) :
    |q - (m + step : ℤ) * u| < |q - m * u| := by
  have hcast : (2 : ℚ) ≤ step * (k - m) := by exact_mod_cast htowards
  have hmiddle : 2 * q = (m + k) * u := by
    rcases abs_eq_abs.mp htie with hsame | hopposite
    · have hmk : (m : ℚ) = k := mul_right_cancel₀ hu.ne' (by linarith)
      rw [hmk] at hcast
      linarith
    · linarith
  have hfar : step * (q - m * u) = step * (k - m) * u / 2 := by linear_combination step * hmiddle / 2
  have hpositive : u ≤ step * (q - m * u) := by
    rw [hfar]
    nlinarith
  rcases hstep with rfl | rfl
  · rw [abs_of_pos (a := q - m * u) (by push_cast at hpositive; linarith), abs_lt]
    push_cast at hpositive ⊢
    constructor <;> linarith
  · rw [abs_of_neg (a := q - m * u) (by push_cast at hpositive; linarith), abs_lt]
    push_cast at hpositive ⊢
    constructor <;> linarith

/-- Of two numbers of the format that tie, both with even significands, neither is the closest. -/
theorem exists_closer {m k e : ℤ} {q : ℚ} (hm : |m| < 2 ^ 53) (hge : minExponent ≤ e)
    (hle : e ≤ maxExponent) (hmeven : Even m) (hkeven : Even k) (hne : m ≠ k)
    (htie : |q - m * 2 ^ e| = |q - k * 2 ^ e|) :
    ∃ r, Representable r ∧ |q - r| < |q - m * 2 ^ e| := by
  obtain ⟨a, rfl⟩ := hmeven
  obtain ⟨b, rfl⟩ := hkeven
  obtain ⟨hlow, hhigh⟩ := abs_lt.mp hm
  have hrepresentable : ∀ step : ℤ, step = 1 ∨ step = -1 →
      Representable ((a + a + step : ℤ) * 2 ^ e) := by
    intro step hstep
    exact ⟨_, e, abs_lt.mpr ⟨by omega, by omega⟩, hge, hle, rfl⟩
  rcases lt_or_gt_of_ne hne with hlt | hgt
  · exact ⟨_, hrepresentable 1 (Or.inl rfl),
      step_closer (by positivity) (Or.inl rfl) (by omega) htie⟩
  · exact ⟨_, hrepresentable (-1) (Or.inr rfl),
      step_closer (by positivity) (Or.inr rfl) (by omega) htie⟩

theorem even_signed {m : Nat} (h : Even m) (negative : Bool) : Even (signed negative m) := by
  obtain ⟨k, rfl⟩ := h
  exact ⟨signed negative k, by cases negative <;> simp [signed]⟩

/-- Two nearest finite numbers are equal. -/
theorem Nearest.rational_eq {q : ℚ} {a b : Bool} {m k : Nat} {e f : Int}
    (hm : Nearest q (.finite a m e)) (hk : Nearest q (.finite b k f)) (hle : e ≤ f) :
    rational a m e = rational b k f := by
  obtain ⟨-, hcanonical, hclosest, heven⟩ := hm
  obtain ⟨-, hother, hclosest', heven'⟩ := hk
  by_contra hne
  have hr := hcanonical.representable a
  have hs := hother.representable b
  have htie : |q - rational a m e| = |q - rational b k f| :=
    le_antisymm (hclosest _ hs) (hclosest' _ hr)
  have hmeven := even_signed (heven _ hs (Ne.symm hne) htie) a
  have hkeven := (even_signed (heven' _ hr hne htie.symm) b).mul_right (2 ^ (f - e).toNat)
  -- Both are multiples of the smaller power of two.
  rw [rational_eq_signed a] at htie hne hclosest
  rw [rational_eq_signed b, mul_zpow_of_le _ hle] at htie hne
  have hsmall : |signed a m| < 2 ^ 53 := by
    rw [Int.abs_eq_natAbs, natAbs_signed]
    exact_mod_cast hcanonical.significand_lt
  obtain ⟨r, hrepresentable, hcloser⟩ := exists_closer hsmall hcanonical.exponent_ge
    hcanonical.exponent_le hmeven hkeven (fun h => hne (by rw [h])) htie
  exact absurd (hclosest r hrepresentable) (not_le.mpr hcloser)

theorem nearest_infinity_iff {q : ℚ} {negative : Bool} :
    Nearest q (.infinity negative) ↔ binary64Bound ≤ |q| ∧ negative = decide (q < 0) := by
  constructor
  · intro h
    cases h with
    | infinity hbound hsign => exact ⟨hbound, hsign⟩
  · exact fun ⟨hbound, hsign⟩ => .infinity hbound hsign

theorem Nearest.lt_bound {q : ℚ} {negative : Bool} {m : Nat} {e : Int}
    (h : Nearest q (.finite negative m e)) : |q| < binary64Bound := by
  cases h with
  | finite hbound => exact hbound

/-- **There is one nearest number**, but for the sign of a zero. -/
theorem Nearest.unique {q : ℚ} {x y : Binary64} (hx : Nearest q x) (hy : Nearest q y) :
    x.toRat? = y.toRat? := by
  cases x with
  | nan => cases hx
  | finite a m e =>
    cases y with
    | nan => cases hy
    | finite b k f =>
      refine congrArg some ?_
      rcases le_total e f with hle | hle
      · exact hx.rational_eq hy hle
      · exact (hy.rational_eq hx hle).symm
    | infinity _ => exact absurd hx.lt_bound (not_lt.mpr (nearest_infinity_iff.mp hy).1)
  | infinity _ =>
    cases y with
    | nan => cases hy
    | finite b k f => exact absurd hy.lt_bound (not_lt.mpr (nearest_infinity_iff.mp hx).1)
    | infinity _ => rfl

/-- A rational of the format is its own nearest number. -/
theorem Nearest.eq_of_representable {q : ℚ} {x : Binary64} (h : Nearest q x)
    (hq : Representable q) (hbound : |q| < binary64Bound) : x.toRat? = some q := by
  cases h with
  | finite _ _ hclosest =>
    have hzero := hclosest q hq
    rw [sub_self, abs_zero, abs_nonpos_iff, sub_eq_zero] at hzero
    exact congrArg some hzero.symm
  | infinity hinfinite => exact absurd hbound (not_lt.mpr hinfinite)

/-! ## Halves -/

/-- A quotient is rounded by at most one half, and by one half to an even neighbour. -/
theorem roundRatio_half (num : Nat) {den : Nat} (hden : 0 < den) :
    |(num : ℚ) / den - roundRatio num den| ≤ 1 / 2 ∧
      (|(num : ℚ) / den - roundRatio num den| = 1 / 2 → Even (roundRatio num den)) := by
  have hdenominator : (0 : ℚ) < den := by exact_mod_cast hden
  have hquotient : (num : ℚ) / den = (num / den : ℕ) + (num % den : ℕ) / den := by
    rw [div_eq_iff hdenominator.ne', add_mul, div_mul_cancel₀ _ hdenominator.ne', mul_comm]
    exact_mod_cast (Nat.div_add_mod num den).symm
  have hdown : ∀ {x : ℚ}, (num / den : ℕ) + x - (num / den : ℕ) = x := by
    intro x
    ring
  have hup : ∀ {x : ℚ}, (num / den : ℕ) + x - (num / den + 1 : ℕ) = x - 1 := by
    intro x
    push_cast
    ring
  have hnonneg : (0 : ℚ) ≤ (num % den : ℕ) / den := by positivity
  have hhalf : ∀ {x : ℚ}, x = 1 / 2 → |x - 1| = 1 / 2 := by
    rintro _ rfl
    norm_num
  simp only [roundRatio]
  rw [hquotient]
  split_ifs with hbelow habove heven
  · have hlt : ((num % den : ℕ) : ℚ) / den < 1 / 2 := by
      rw [div_lt_iff₀ hdenominator]
      have : 2 * ((num % den : ℕ) : ℚ) < den := by exact_mod_cast hbelow
      linarith
    rw [hdown, abs_of_nonneg hnonneg]
    exact ⟨hlt.le, fun h => absurd h hlt.ne⟩
  · have hgt : 1 / 2 < ((num % den : ℕ) : ℚ) / den := by
      rw [lt_div_iff₀ hdenominator]
      have : (den : ℚ) < 2 * (num % den : ℕ) := by exact_mod_cast habove
      linarith
    have hlt : ((num % den : ℕ) : ℚ) / den < 1 := by
      rw [div_lt_one hdenominator]
      exact_mod_cast Nat.mod_lt num hden
    rw [hup, abs_of_neg (by linarith)]
    exact ⟨by linarith, fun h => by linarith⟩
  all_goals
    have hequal : ((num % den : ℕ) : ℚ) / den = 1 / 2 := by
      rw [div_eq_iff hdenominator.ne']
      have : 2 * ((num % den : ℕ) : ℚ) = den := by
        exact_mod_cast le_antisymm (not_lt.mp habove) (not_lt.mp hbelow)
      linarith
  · rw [hdown, abs_of_nonneg hnonneg]
    exact ⟨hequal.le, fun _ => Nat.even_iff.mpr heven⟩
  · rw [hup, hhalf hequal]
    exact ⟨le_refl _, fun _ => Nat.even_iff.mpr (by omega)⟩

/-- The power of two at its logarithm is not above a quotient. -/
theorem floorLog2_le {num : Nat} (hnum : num ≠ 0) (den : Nat) :
    (den : ℚ) * 2 ^ floorLog2 num den ≤ num := by
  have hlow : (2 : ℚ) ^ num.log2 ≤ num := by exact_mod_cast Nat.log2_self_le hnum
  have hhigh : (den : ℚ) < 2 ^ (den.log2 + 1) := by exact_mod_cast Nat.lt_log2_self
  simp only [floorLog2, Nat.pow_eq]
  split_ifs with hle
  · generalize (num.log2 : Int) - den.log2 = estimate at hle ⊢
    have hle' : (den : ℚ) * 2 ^ estimate.toNat ≤ num * 2 ^ (-estimate).toNat := by
      exact_mod_cast hle
    rw [← zpow_mul_pow_toNat two_ne_zero estimate, ← mul_assoc] at hle'
    exact le_of_mul_le_mul_right hle' (by positivity)
  · calc (den : ℚ) * 2 ^ ((num.log2 : Int) - den.log2 - 1)
        ≤ 2 ^ (den.log2 + 1) * 2 ^ ((num.log2 : Int) - den.log2 - 1) :=
          mul_le_mul_of_nonneg_right hhigh.le (by positivity)
      _ = 2 ^ num.log2 := by
          rw [← zpow_natCast, ← zpow_natCast, ← zpow_add₀ (by norm_num)]
          congr 1
          push_cast
          omega
      _ ≤ num := hlow

/-! ## Rounding at an exponent -/

/-- The rational is rounded to `m · 2 ^ e`, by half of `2 ^ e` at most and by a half to an even
significand, and the exponent leaves 53 binary digits to it, or is the least one. -/
structure Rounded (a : ℚ) (m : Nat) (e : Int) : Prop where
  half : |a - m * 2 ^ e| ≤ 2 ^ e / 2
  even : |a - m * 2 ^ e| = 2 ^ e / 2 → Even m
  above : 0 < a
  below : a < 2 ^ 53 * 2 ^ e
  least : minExponent ≤ e
  full : e = minExponent ∨ 2 ^ 52 * 2 ^ e ≤ a

/-- Rounding takes a quotient at its logarithm. -/
theorem rounded_quotient {num den : Nat} (hnum : num ≠ 0) (hden : den ≠ 0) {e : Int}
    (he : e = max (floorLog2 num den - 52) minExponent) :
    Rounded (num / den) (roundRatio (num * 2 ^ (-e).toNat) (den * 2 ^ e.toNat)) e := by
  have hpositive : (0 : ℚ) < den := by exact_mod_cast Nat.pos_of_ne_zero hden
  have hunit : (0 : ℚ) < 2 ^ e := by positivity
  have hscaled : ((num * 2 ^ (-e).toNat : ℕ) : ℚ) / (den * 2 ^ e.toNat : ℕ)
      = num / den / 2 ^ e := by
    push_cast
    rw [← zpow_mul_pow_toNat two_ne_zero e]
    field_simp
  have hscale : 0 < den * 2 ^ e.toNat := by positivity
  obtain ⟨hhalf, heven⟩ := roundRatio_half (num * 2 ^ (-e).toNat) hscale
  rw [hscaled] at hhalf heven
  generalize roundRatio (num * 2 ^ (-e).toNat) (den * 2 ^ e.toNat) = m at hhalf heven ⊢
  have hdistance : |(num : ℚ) / den - m * 2 ^ e| = |(num : ℚ) / den / 2 ^ e - m| * 2 ^ e := by
    rw [← abs_of_pos hunit, ← abs_mul, abs_of_pos hunit, sub_mul, div_mul_cancel₀ _ hunit.ne']
  refine ⟨?_, fun h => heven ?_, by positivity, ?_, he ▸ le_max_right _ _, ?_⟩
  · rw [hdistance]
    calc |(num : ℚ) / den / 2 ^ e - m| * 2 ^ e ≤ 1 / 2 * 2 ^ e :=
          mul_le_mul_of_nonneg_right hhalf hunit.le
      _ = 2 ^ e / 2 := by ring
  · rw [hdistance] at h
    exact mul_right_cancel₀ hunit.ne' (h.trans (by ring))
  · rw [div_lt_iff₀ hpositive]
    calc (num : ℚ) < den * 2 ^ (floorLog2 num den + 1) := lt_floorLog2 hden
      _ ≤ den * 2 ^ (53 + e) := by
          refine mul_le_mul_of_nonneg_left (zpow_le_zpow_right₀ (by norm_num) ?_) hpositive.le
          have := le_max_left (floorLog2 num den - 52) minExponent
          omega
      _ = 2 ^ 53 * 2 ^ e * den := by
          rw [zpow_add₀ (by norm_num), mul_comm]
          norm_cast
  · rcases max_choice (floorLog2 num den - 52) minExponent with hmax | hmax
    · refine Or.inr ?_
      rw [le_div_iff₀ hpositive]
      calc (2 : ℚ) ^ 52 * 2 ^ e * den = den * 2 ^ (52 + e) := by
            rw [zpow_add₀ (by norm_num), mul_comm]
            norm_cast
        _ = den * 2 ^ floorLog2 num den := by rw [he, hmax]; congr 2; omega
        _ ≤ num := floorLog2_le hnum den
    · exact Or.inl (he.trans hmax)

/-- The bound by its last binary place, and the powers of two by the same place. -/
theorem exists_bound_unit : ∃ unit : ℚ, 0 < unit ∧ (binary64Bound : ℚ) + unit = 2 ^ 54 * unit ∧
    (∀ e : ℤ, e ≤ 970 → (2 : ℚ) ^ e ≤ unit) ∧ (∀ e : ℤ, e = 971 → (2 : ℚ) ^ e = 2 * unit) ∧
      ∀ e : ℤ, 972 ≤ e → 4 * unit ≤ (2 : ℚ) ^ e := by
  have htwo : (2 : ℚ) ≠ 0 := by norm_num
  have hone : (1 : ℚ) ≤ 2 := by norm_num
  refine ⟨2 ^ (970 : ℤ), zpow_pos (by norm_num) _, ?_, fun e he => zpow_le_zpow_right₀ hone he, ?_,
    fun e he => ?_⟩
  · have hnat : binary64Bound + 2 ^ 970 = 2 ^ 54 * 2 ^ 970 := by decide +kernel
    have hcast := congrArg (Nat.cast : ℕ → ℚ) hnat
    rw [Nat.cast_add, Nat.cast_mul, Nat.cast_pow, Nat.cast_pow] at hcast
    exact hcast
  · rintro _ rfl
    rw [show (971 : ℤ) = 1 + 970 from rfl, zpow_one_add₀ htwo]
  · calc 4 * (2 : ℚ) ^ (970 : ℤ) = 2 ^ ((2 : ℤ) + 970) := by rw [zpow_add₀ htwo]; norm_num
      _ ≤ 2 ^ e := zpow_le_zpow_right₀ hone he

namespace Rounded

variable {a : ℚ} {m : Nat} {e : Int}

/-- No multiple of the power of two is closer. -/
theorem closest_multiple (h : Rounded a m e) (k : ℤ) :
    |a - m * 2 ^ e| ≤ |a - k * 2 ^ e| ∧
      (k * 2 ^ e ≠ m * (2 : ℚ) ^ e → |a - m * 2 ^ e| = |a - k * 2 ^ e| → Even m) := by
  have hunit : (0 : ℚ) < 2 ^ e := by positivity
  by_cases hk : k = m
  · obtain rfl := hk
    exact ⟨le_refl _, fun hne => absurd rfl hne⟩
  · have hapart : (1 : ℚ) ≤ |(m : ℚ) - k| := by
      exact_mod_cast Int.one_le_abs (sub_ne_zero.mpr (Ne.symm hk))
    have hstep : (2 : ℚ) ^ e ≤ |a - k * 2 ^ e| + |a - m * 2 ^ e| :=
      calc (2 : ℚ) ^ e ≤ |(m : ℚ) - k| * 2 ^ e := le_mul_of_one_le_left hunit.le hapart
        _ = |(a - k * 2 ^ e) - (a - m * 2 ^ e)| := by
            rw [← abs_of_pos hunit, ← abs_mul, abs_of_pos hunit]
            congr 1
            ring
        _ ≤ |a - k * 2 ^ e| + |a - m * 2 ^ e| := abs_sub _ _
    have hhalf := h.half
    exact ⟨by linarith, fun _ htie => h.even (by linarith)⟩

/-- No number of the format is closer, and none of another value as close but for an even
significand. -/
theorem closest (h : Rounded a m e) {r : ℚ} (hr : Representable r) :
    |a - m * 2 ^ e| ≤ |a - r| ∧ (r ≠ m * 2 ^ e → |a - m * 2 ^ e| = |a - r| → Even m) := by
  obtain ⟨k, f, hk, hge, -, rfl⟩ := hr
  rcases le_or_gt e f with hle | hlt
  · rw [mul_zpow_of_le k hle]
    exact h.closest_multiple _
  · -- Below the first significand of 53 digits the numbers lie closer, but farther from `a`.
    have hfull := h.full.resolve_left fun hleast => by omega
    have hbelow : (k : ℚ) * 2 ^ f < 2 ^ 52 * 2 ^ e :=
      calc (k : ℚ) * 2 ^ f < 2 ^ 53 * 2 ^ f :=
            mul_lt_mul_of_pos_right (by exact_mod_cast (abs_lt.mp hk).2) (by positivity)
        _ ≤ 2 ^ 53 * 2 ^ (e - 1) :=
            mul_le_mul_of_nonneg_left (zpow_le_zpow_right₀ (by norm_num) (by omega)) (by norm_num)
        _ = 2 ^ 52 * 2 ^ e := by
            rw [zpow_sub_one₀ (by norm_num)]
            ring
    have hfirst := (h.closest_multiple (2 ^ 52)).1
    rw [Int.cast_pow, Int.cast_ofNat] at hfirst
    rw [abs_of_nonneg (a := a - 2 ^ 52 * 2 ^ e) (by linarith)] at hfirst
    have hfar : |a - m * 2 ^ e| < |a - k * 2 ^ f| := by
      rw [abs_of_pos (a := a - k * 2 ^ f) (by linarith)]
      linarith
    exact ⟨hfar.le, fun _ htie => absurd htie hfar.ne⟩

theorem le_carry (h : Rounded a m e) : m ≤ 2 ^ 53 := by
  have hunit : (0 : ℚ) < 2 ^ e := by positivity
  have hhalf := (abs_le.mp h.half).1
  have hbelow := h.below
  have hlt : (m : ℚ) < 2 ^ 53 + 1 := lt_of_mul_lt_mul_right (by linarith) hunit.le
  exact Nat.lt_succ_iff.mp (by exact_mod_cast hlt)

theorem ge_full (h : Rounded a m e) : e = minExponent ∨ 2 ^ 52 ≤ m := by
  refine h.full.imp_right fun hfull => ?_
  have hunit : (0 : ℚ) < 2 ^ e := by positivity
  have hhalf := (abs_le.mp h.half).2
  have hlt : (2 : ℚ) ^ 52 < m + 1 := lt_of_mul_lt_mul_right (by linarith) hunit.le
  exact Nat.lt_succ_iff.mp (by exact_mod_cast hlt)

/-- Rounding carries from halfway below the end of the significands on. -/
theorem carries_iff (h : Rounded a m e) : m = 2 ^ 53 ↔ (2 ^ 54 - 1) * 2 ^ e ≤ 2 * a := by
  have hunit : (0 : ℚ) < 2 ^ e := by positivity
  obtain ⟨hlow, hhigh⟩ := abs_le.mp h.half
  constructor
  · rintro rfl
    push_cast at hhigh hlow
    linarith
  · intro hge
    by_contra hne
    have hle : (m : ℚ) + 1 ≤ 2 ^ 53 := by
      exact_mod_cast Nat.lt_of_le_of_ne h.le_carry hne
    have hmul := mul_le_mul_of_nonneg_right hle hunit.le
    have hlast : (m + 1 : ℚ) * 2 ^ e = 2 ^ 53 * 2 ^ e := by linarith
    have hm : m + 1 = 2 ^ 53 := by
      exact_mod_cast mul_right_cancel₀ hunit.ne' hlast
    obtain ⟨half, rfl⟩ := h.even (by rw [abs_of_nonneg (by linarith)]; linarith)
    omega

/-- Beyond the format is what is at or above the bound. -/
theorem overflows_iff (h : Rounded a m e) :
    maxExponent < (if m = 2 ^ 53 then e + 1 else e) ↔ (binary64Bound : ℚ) ≤ a := by
  obtain ⟨unit, hpositive, hbound, hbelow, hlast, habove⟩ := exists_bound_unit
  rcases lt_trichotomy e 971 with hlt | heq | hgt
  · have hpow := hbelow e (by omega)
    have hrange := h.below
    refine iff_of_false ?_ (by linarith)
    rw [maxExponent]
    split_ifs <;> omega
  · have hcarry := h.carries_iff
    rw [hlast e heq] at hcarry
    rw [heq, maxExponent]
    split_ifs with hm
    · exact iff_of_true (by decide) (by linarith [hcarry.mp hm])
    · exact iff_of_false (by decide) fun hle => hm (hcarry.mpr (by linarith))
  · have hpow := habove e (by omega)
    have hfull := h.full.resolve_left fun hleast => by
      rw [hleast] at hgt
      exact absurd hgt (by decide)
    refine iff_of_true ?_ (by linarith)
    rw [maxExponent]
    split_ifs <;> omega

/-- A pair of the same value, with an even significand where the rounding has one, is nearest. -/
theorem nearest_finite (h : Rounded a m e) (hbound : a < binary64Bound) (negative : Bool) {k : Nat}
    {f : Int} (hcanonical : Canonical k f) (hvalue : (k : ℚ) * 2 ^ f = m * 2 ^ e)
    (heven : Even m → Even k) : Nearest (sign negative * a) (.finite negative k f) := by
  refine .finite ?_ hcanonical (fun r hr => ?_) fun r hr hne htie => heven ?_
  · rw [abs_mul, abs_sign, one_mul, abs_of_pos h.above]
    exact hbound
  · rw [rational, hvalue, abs_sign_mul_sub, ← sign_mul_sign_mul negative r, abs_sign_mul_sub]
    exact (h.closest (hr.sign_mul negative)).1
  · rw [rational, hvalue] at hne htie
    rw [abs_sign_mul_sub, ← sign_mul_sign_mul negative r, abs_sign_mul_sub] at htie
    refine (h.closest (hr.sign_mul negative)).2 (fun heq => hne ?_) htie
    rw [← heq, sign_mul_sign_mul]

theorem nearest_infinity (habove : 0 < a) (hbound : (binary64Bound : ℚ) ≤ a) (negative : Bool) :
    Nearest (sign negative * a) (.infinity negative) := by
  refine .infinity ?_ ?_
  · rw [abs_mul, abs_sign, one_mul, abs_of_pos habove]
    exact hbound
  · cases negative <;> simp [sign, habove, habove.le]

/-- **What is rounded at an exponent is the nearest number.** -/
theorem nearest_ofParts (h : Rounded a m e) (negative : Bool) :
    Nearest (sign negative * a) (ofParts negative m e) := by
  have hoverflows := h.overflows_iff
  by_cases hcarry : m = 2 ^ 53
  · obtain rfl := hcarry
    rw [if_pos rfl] at hoverflows
    rw [ofParts_carry]
    split_ifs with hover
    · exact nearest_infinity h.above (hoverflows.mp hover) negative
    · have hleast := h.least
      refine h.nearest_finite (not_le.mp (hoverflows.not.mp hover)) negative
        ⟨by norm_num, by omega, not_lt.mp hover, Or.inr (le_refl _)⟩ ?_
        fun _ => ⟨2 ^ 51, by norm_num⟩
      rw [zpow_add_one₀ (by norm_num)]
      push_cast
      ring
  · rw [if_neg hcarry] at hoverflows
    rw [ofParts_of_ne negative hcarry]
    split_ifs with hover
    · exact nearest_infinity h.above (hoverflows.mp hover) negative
    · exact h.nearest_finite (not_le.mp (hoverflows.not.mp hover)) negative
        ⟨lt_of_le_of_ne h.le_carry hcarry, h.least, not_lt.mp hover, h.ge_full⟩ rfl id

end Rounded

/-! ## Quotients and decimal numbers -/

theorem nearest_zero (negative : Bool) : Nearest 0 (zero negative) := by
  have hvalue : rational negative 0 minExponent = 0 := by
    rw [rational, Nat.cast_zero, zero_mul, mul_zero]
  refine .finite ?_ ⟨by norm_num, le_refl _, by decide, Or.inl rfl⟩ (fun r _ => ?_)
    fun _ _ _ _ => ⟨0, rfl⟩
  · rw [abs_zero]
    exact_mod_cast (by decide +kernel : 0 < binary64Bound)
  · rw [hvalue, sub_zero, abs_zero]
    exact abs_nonneg _

/-- **A quotient is rounded to its nearest number.** -/
theorem nearest_nearest (negative : Bool) (num : Nat) {den : Nat} (hden : den ≠ 0) :
    Nearest (sign negative * (num / den)) (nearest negative num den) := by
  unfold nearest
  split_ifs with hzero
  · rw [hzero, Nat.cast_zero, zero_div, mul_zero]
    exact nearest_zero negative
  · exact (rounded_quotient hzero hden rfl).nearest_ofParts negative

/-- The number of its digits puts a number between two powers of ten. -/
theorem decimalLength_spec {n : Nat} (hn : n ≠ 0) :
    10 ^ (decimalLength n - 1) ≤ n ∧ n < 10 ^ decimalLength n := by
  unfold decimalLength
  have hlength : 0 < (Nat.toDigits 10 n).length := Nat.length_toDigits_pos
  refine ⟨?_, (Nat.length_toDigits_le_iff (by decide) hlength).mp (le_refl _)⟩
  rcases Nat.eq_zero_or_pos ((Nat.toDigits 10 n).length - 1) with hone | hmore
  · rw [hone]
    omega
  · refine not_lt.mp fun hlt => ?_
    have hle := (Nat.length_toDigits_le_iff (by decide) hmore).mpr hlt
    omega

/-- Beyond 400 places before the point a decimal number is beyond the format. -/
theorem bound_le_decimal {digits : Nat} (hdigits : digits ≠ 0) {exponent : Int}
    (h : 400 < exponent + decimalLength digits) :
    (binary64Bound : ℚ) ≤ digits * 10 ^ exponent := by
  have hbound : (binary64Bound : ℚ) ≤ 10 ^ (400 : ℤ) := by
    have hnat : binary64Bound ≤ 10 ^ 400 := by decide +kernel
    have hcast := Nat.cast_le (α := ℚ) |>.mpr hnat
    rwa [Nat.cast_pow] at hcast
  have hlow : (10 : ℚ) ^ (decimalLength digits - 1) ≤ digits := by
    exact_mod_cast (decimalLength_spec hdigits).1
  calc (binary64Bound : ℚ) ≤ 10 ^ (400 : ℤ) := hbound
    _ ≤ 10 ^ (((decimalLength digits - 1 : ℕ) : ℤ) + exponent) :=
        zpow_le_zpow_right₀ (by norm_num) (by omega)
    _ = 10 ^ (decimalLength digits - 1) * 10 ^ exponent := by
        rw [zpow_add₀ (by norm_num), zpow_natCast]
    _ ≤ digits * 10 ^ exponent := mul_le_mul_of_nonneg_right hlow (by positivity)

/-- Beyond 400 places behind the point a decimal number is rounded to zero. -/
theorem rounded_decimal_zero {digits : Nat} (hdigits : digits ≠ 0) {exponent : Int}
    (h : exponent + decimalLength digits < -400) :
    Rounded (digits * 10 ^ exponent) 0 minExponent := by
  have hpositive : (0 : ℚ) < digits := by exact_mod_cast Nat.pos_of_ne_zero hdigits
  have hhigh : (digits : ℚ) < 10 ^ decimalLength digits := by
    exact_mod_cast (decimalLength_spec hdigits).2
  have hten : (10 : ℚ) ^ (-401 : ℤ) ≤ 2 ^ (-1075 : ℤ) := by
    have hnat : 2 ^ 1075 ≤ 10 ^ 401 := by decide +kernel
    have hcast := Nat.cast_le (α := ℚ) |>.mpr hnat
    rw [Nat.cast_pow, Nat.cast_pow] at hcast
    rw [zpow_neg, zpow_neg]
    exact inv_anti₀ (by positivity) hcast
  have hsmall : (digits : ℚ) * 10 ^ exponent < 2 ^ (-1075 : ℤ) :=
    calc (digits : ℚ) * 10 ^ exponent < 10 ^ decimalLength digits * 10 ^ exponent :=
          mul_lt_mul_of_pos_right hhigh (by positivity)
      _ = 10 ^ ((decimalLength digits : ℤ) + exponent) := by
          rw [zpow_add₀ (by norm_num), zpow_natCast]
      _ ≤ 10 ^ (-401 : ℤ) := zpow_le_zpow_right₀ (by norm_num) (by omega)
      _ ≤ 2 ^ (-1075 : ℤ) := hten
  have hunit : (2 : ℚ) ^ (-1075 : ℤ) = 2 ^ minExponent / 2 := by
    rw [div_eq_mul_inv, ← zpow_sub_one₀ (by norm_num)]
    rfl
  have hleast : (0 : ℚ) < 2 ^ minExponent := by positivity
  rw [hunit] at hsmall
  refine ⟨?_, fun _ => ⟨0, rfl⟩, by positivity, by linarith, le_refl _, Or.inl rfl⟩
  rw [Nat.cast_zero, zero_mul, sub_zero, abs_of_pos (by positivity)]
  exact hsmall.le

/-- **A decimal number is rounded to its nearest number**, also where no power is computed. -/
theorem nearest_ofDecimal (negative : Bool) (digits : Nat) (exponent : Int) :
    Nearest (sign negative * (digits * 10 ^ exponent)) (ofDecimal negative digits exponent) := by
  unfold ofDecimal
  simp only
  split_ifs with hzero hlarge hsmall
  · rw [hzero, Nat.cast_zero, zero_mul, mul_zero]
    exact nearest_zero negative
  · have hpositive : (0 : ℚ) < digits := by exact_mod_cast Nat.pos_of_ne_zero hzero
    exact Rounded.nearest_infinity (by positivity) (bound_le_decimal hzero hlarge) negative
  · have hparts := (rounded_decimal_zero hzero hsmall).nearest_ofParts negative
    rwa [ofParts_of_ne negative (by norm_num), if_neg (by decide)] at hparts
  · have hquotient : ((digits * Nat.pow 10 exponent.toNat : ℕ) : ℚ)
        / (Nat.pow 10 (-exponent).toNat : ℕ) = digits * 10 ^ exponent := by
      rw [Nat.pow_eq, Nat.pow_eq, Nat.cast_mul, Nat.cast_pow, Nat.cast_pow, Nat.cast_ofNat,
        ← zpow_mul_pow_toNat (by norm_num) exponent]
      field_simp
    rw [← hquotient]
    exact nearest_nearest negative _ (Nat.pow_pos (by decide)).ne'

end VmScan.Number.Binary64
