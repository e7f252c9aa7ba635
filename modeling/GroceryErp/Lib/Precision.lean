import GroceryErp.Lib.Rounding
import Mathlib.Data.Int.Log
import Mathlib.Algebra.Ring.Int.Parity

/-!
# Decimals of a fixed precision

Decimal arithmetic keeps so many digits of each result, counted from the first one that is not
zero, and rounds to the nearest such number, a tie going to the even digit.  How far apart these
numbers are depends on how large they are, so they are no grid; but a grid value that is small
enough is one of them.

## Main definitions

* `roundHalfEven` — the nearest integer, ties going to the even one.
* `ulp digits x` — the value of the last digit that is kept of `x`.
* `significant digits x` — the nearest number of so many digits.

## Main results

* `significant_eq_self` — a grid value that is small enough is kept as it is.
* `significant_mono` — larger numbers are rounded to larger ones, across powers of ten as well.
* `le_significant`, `significant_le` — rounding does not pass a number that is kept.
-/

namespace Decimal

/-! ### Rounding to an integer -/

/-- The nearest integer, a tie going to the even one. -/
def roundHalfEven (x : ℚ) : ℤ :=
  if Int.fract x < 1 / 2 ∨ Int.fract x = 1 / 2 ∧ Even ⌊x⌋ then ⌊x⌋ else ⌊x⌋ + 1

@[simp] theorem roundHalfEven_intCast (k : ℤ) : roundHalfEven k = k := by
  simp [roundHalfEven]

@[simp] theorem roundHalfEven_zero : roundHalfEven 0 = 0 := by
  simpa using roundHalfEven_intCast 0

theorem floor_le_roundHalfEven (x : ℚ) : ⌊x⌋ ≤ roundHalfEven x := by
  unfold roundHalfEven
  split
  · exact le_rfl
  · exact Int.le_add_one le_rfl

theorem roundHalfEven_le_floor_add_one (x : ℚ) : roundHalfEven x ≤ ⌊x⌋ + 1 := by
  unfold roundHalfEven
  split
  · exact Int.le_add_one le_rfl
  · exact le_rfl

theorem roundHalfEven_mono {x y : ℚ} (h : x ≤ y) : roundHalfEven x ≤ roundHalfEven y := by
  rcases (Int.floor_mono h).lt_or_eq with hlt | heq
  · -- an integer lies between the two
    calc roundHalfEven x ≤ ⌊x⌋ + 1 := roundHalfEven_le_floor_add_one x
      _ ≤ ⌊y⌋ := hlt
      _ ≤ roundHalfEven y := floor_le_roundHalfEven y
  · have hfract : Int.fract x ≤ Int.fract y := by
      rw [Int.fract, Int.fract, heq]
      exact sub_le_sub_right h _
    by_cases hdown : Int.fract y < 1 / 2 ∨ Int.fract y = 1 / 2 ∧ Even ⌊y⌋
    · -- what is rounded down has only smaller ones below it, or the same tie
      have hdown' : Int.fract x < 1 / 2 ∨ Int.fract x = 1 / 2 ∧ Even ⌊x⌋ := by
        rcases hdown with hlt | ⟨htie, heven⟩
        · exact .inl (hfract.trans_lt hlt)
        · rcases (htie ▸ hfract).lt_or_eq with hlt | htie'
          · exact .inl hlt
          · exact .inr ⟨htie', heq ▸ heven⟩
      rw [roundHalfEven, roundHalfEven, if_pos hdown', if_pos hdown, heq]
    · calc roundHalfEven x ≤ ⌊x⌋ + 1 := roundHalfEven_le_floor_add_one x
        _ = roundHalfEven y := by rw [roundHalfEven, if_neg hdown, heq]

/-- The decimals of a product are those of its factors together. -/
theorem OnGrid.mul {m n : ℕ} {x y : ℚ} (hx : OnGrid m x) (hy : OnGrid n y) :
    OnGrid (m + n) (x * y) := by
  obtain ⟨k, rfl⟩ := hx
  obtain ⟨l, rfl⟩ := hy
  refine ⟨k * l, ?_⟩
  push_cast
  rw [pow_add, div_mul_div_comm]

/-! ### Rounding to a precision -/

/-- The value of the last of the digits that are kept. -/
def ulp (digits : ℕ) (x : ℚ) : ℚ := (10 : ℚ) ^ (Int.log 10 |x| + 1 - digits)

/-- The nearest number of so many digits, a tie going to the even one. -/
def significant (digits : ℕ) (x : ℚ) : ℚ :=
  roundHalfEven (x / ulp digits x) * ulp digits x

section Precision

variable {digits n : ℕ} {x y : ℚ}

theorem ulp_pos (digits : ℕ) (x : ℚ) : 0 < ulp digits x := by
  unfold ulp
  exact zpow_pos (by norm_num) _

@[simp] theorem significant_zero (digits : ℕ) : significant digits 0 = 0 := by
  simp [significant]

theorem significant_nonneg (hx : 0 ≤ x) : 0 ≤ significant digits x := by
  have hquotient : 0 ≤ x / ulp digits x := div_nonneg hx (ulp_pos digits x).le
  have hrounded : roundHalfEven 0 ≤ roundHalfEven (x / ulp digits x) := roundHalfEven_mono hquotient
  rw [roundHalfEven_zero] at hrounded
  unfold significant
  exact mul_nonneg (by exact_mod_cast hrounded) (ulp_pos digits x).le

/-- What is not positive stays so. -/
theorem significant_nonpos (hx : x ≤ 0) : significant digits x ≤ 0 := by
  have hquotient : x / ulp digits x ≤ 0 := div_nonpos_of_nonpos_of_nonneg hx (ulp_pos digits x).le
  have hrounded : roundHalfEven (x / ulp digits x) ≤ roundHalfEven 0 := roundHalfEven_mono hquotient
  rw [roundHalfEven_zero] at hrounded
  unfold significant
  exact mul_nonpos_of_nonpos_of_nonneg (by exact_mod_cast hrounded) (ulp_pos digits x).le

/-- A multiple of the last digit is kept. -/
theorem significant_of_multiple {k : ℤ} (h : x = k * ulp digits x) : significant digits x = x := by
  have hquotient : x / ulp digits x = k := (div_eq_iff (ulp_pos digits x).ne').mpr h
  rw [significant, hquotient, roundHalfEven_intCast, ← h]

/-- **A grid value of no more digits is kept.** -/
theorem significant_eq_self (hgrid : OnGrid n x) (hsmall : |x| < (10 : ℚ) ^ ((digits : ℤ) - n)) :
    significant digits x = x := by
  obtain rfl | hne := eq_or_ne x 0
  · exact significant_zero digits
  · obtain ⟨k, rfl⟩ := hgrid
    have hlog : Int.log 10 |(k : ℚ) / 10 ^ n| < (digits : ℤ) - n :=
      (Int.lt_zpow_iff_log_lt (by norm_num) (abs_pos.mpr hne)).mp hsmall
    -- the last digit that is kept is worth no more than a quantum of the grid
    obtain ⟨j, hj⟩ : ∃ j : ℕ, (j : ℤ) = digits - n - (Int.log 10 |(k : ℚ) / 10 ^ n| + 1) :=
      ⟨_, Int.toNat_of_nonneg (sub_nonneg.mpr hlog)⟩
    have hulp : ulp digits ((k : ℚ) / 10 ^ n) * 10 ^ j * 10 ^ n = 1 := by
      have hten : (10 : ℚ) ≠ 0 := by norm_num
      have hexponent : Int.log 10 |(k : ℚ) / 10 ^ n| + 1 - digits + j + n = 0 := by
        rw [hj]
        ring
      unfold ulp
      generalize Int.log 10 |(k : ℚ) / 10 ^ n| = e at hexponent
      rw [← zpow_natCast, ← zpow_natCast, ← zpow_add₀ hten, ← zpow_add₀ hten, hexponent, zpow_zero]
    refine significant_of_multiple (k := k * 10 ^ j) ?_
    push_cast
    rw [div_eq_iff (by positivity)]
    calc (k : ℚ) = k * (ulp digits ((k : ℚ) / 10 ^ n) * 10 ^ j * 10 ^ n) := by
          rw [hulp, mul_one]
      _ = k * 10 ^ j * ulp digits ((k : ℚ) / 10 ^ n) * 10 ^ n := by ring

/-- A positive number is rounded to no less than the power of ten below it, and to no more than
the one above. -/
theorem significant_between (hdigits : 0 < digits) (hx : 0 < x) :
    (10 : ℚ) ^ Int.log 10 x ≤ significant digits x ∧
      significant digits x ≤ (10 : ℚ) ^ (Int.log 10 x + 1) := by
  have hulp : ulp digits x = (10 : ℚ) ^ (Int.log 10 x + 1 - digits) := by
    unfold ulp
    rw [abs_of_pos hx]
  have hpos := ulp_pos digits x
  -- both powers of ten are multiples of the last digit
  have hlow : (10 : ℚ) ^ Int.log 10 x = ((10 ^ (digits - 1) : ℤ) : ℚ) * ulp digits x := by
    rw [hulp]
    push_cast
    rw [← zpow_natCast, ← zpow_add₀ (by norm_num)]
    congr 1
    omega
  have hhigh : (10 : ℚ) ^ (Int.log 10 x + 1) = ((10 ^ digits : ℤ) : ℚ) * ulp digits x := by
    rw [hulp]
    push_cast
    rw [← zpow_natCast, ← zpow_add₀ (by norm_num)]
    congr 1
    omega
  have hbelow : ((10 ^ (digits - 1) : ℤ) : ℚ) ≤ x / ulp digits x := by
    rw [le_div_iff₀ hpos, ← hlow]
    exact Int.zpow_log_le_self (by norm_num) hx
  have habove : x / ulp digits x ≤ ((10 ^ digits : ℤ) : ℚ) := by
    rw [div_le_iff₀ hpos, ← hhigh]
    exact (Int.lt_zpow_succ_log_self (by norm_num) x).le
  have hbelow' := roundHalfEven_mono hbelow
  have habove' := roundHalfEven_mono habove
  rw [roundHalfEven_intCast] at hbelow' habove'
  constructor
  · rw [hlow]
    exact mul_le_mul_of_nonneg_right (by exact_mod_cast hbelow') hpos.le
  · rw [hhigh]
    exact mul_le_mul_of_nonneg_right (by exact_mod_cast habove') hpos.le

/-- **Rounding to a precision is monotone.** -/
theorem significant_mono (hdigits : 0 < digits) (hx : 0 ≤ x) (hxy : x ≤ y) :
    significant digits x ≤ significant digits y := by
  obtain rfl | hpos := hx.eq_or_lt
  · rw [significant_zero]
    exact significant_nonneg hxy
  · have hpos' : 0 < y := hpos.trans_le hxy
    rcases (Int.log_mono_right (b := 10) hpos hxy).lt_or_eq with hlt | heq
    · -- a power of ten lies between the two
      calc significant digits x ≤ (10 : ℚ) ^ (Int.log 10 x + 1) :=
            (significant_between hdigits hpos).2
        _ ≤ (10 : ℚ) ^ Int.log 10 y := zpow_le_zpow_right₀ (by norm_num) hlt
        _ ≤ significant digits y := (significant_between hdigits hpos').1
    · have hulp : ulp digits x = ulp digits y := by
        unfold ulp
        rw [abs_of_pos hpos, abs_of_pos hpos', heq]
      have hrounded : roundHalfEven (x / ulp digits y) ≤ roundHalfEven (y / ulp digits y) :=
        roundHalfEven_mono (div_le_div_of_nonneg_right hxy (ulp_pos digits y).le)
      unfold significant
      rw [hulp]
      exact mul_le_mul_of_nonneg_right (by exact_mod_cast hrounded) (ulp_pos digits y).le

/-- What is no less than a number that is kept is rounded to no less. -/
theorem le_significant (hdigits : 0 < digits) (hy : 0 ≤ y) (hkept : significant digits y = y)
    (h : y ≤ x) : y ≤ significant digits x := by
  have hmono := significant_mono hdigits hy h
  rwa [hkept] at hmono

/-- What is no more than a number that is kept is rounded to no more. -/
theorem significant_le (hdigits : 0 < digits) (hx : 0 ≤ x) (hkept : significant digits y = y)
    (h : x ≤ y) : significant digits x ≤ y := by
  have hmono := significant_mono hdigits hx h
  rwa [hkept] at hmono

end Precision

end Decimal
