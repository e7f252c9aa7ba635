import Mathlib.MeasureTheory.Integral.IntervalIntegral.Basic
import Mathlib.MeasureTheory.Integral.Bochner.Set

/-!
# Rates in steps

A rate along the line that is constant up to a limit, then constant up to the next, and so on.
What it accrues to over an interval is its integral, step by step.

## Main definitions

* `Step`, `rateAt` — the steps, and the rate they make.

## Main results

* `intervalIntegrable_rateAt` — the rate can be integrated over any interval.
* `integral_rateAt_first`, `integral_rateAt_cons` — within the first step, and beyond it.
* `integral_rateAt_mono`, `integral_rateAt_le` — what is accrued grows with the interval, and is
  bounded by the greatest rate.
-/

namespace StepRates

open Set intervalIntegral
open MeasureTheory (Integrable volume)

/-- A rate up to a limit, or without one. -/
structure Step where
  upto : Option ℝ
  rate : ℝ

/-- The rate at a point; there is none beyond the last limit. -/
noncomputable def rateAt : List Step → ℝ → ℝ
  | [], _ => 0
  | step :: steps, x =>
    match step.upto with
    | none => step.rate
    | some upto => if x ≤ upto then step.rate else rateAt steps x

section Rates

variable {steps : List Step} {upto rate x : ℝ}

theorem rateAt_unbounded (rate : ℝ) (steps : List Step) (x : ℝ) :
    rateAt (⟨none, rate⟩ :: steps) x = rate := rfl

theorem rateAt_of_le (hx : x ≤ upto) : rateAt (⟨some upto, rate⟩ :: steps) x = rate :=
  if_pos hx

theorem rateAt_of_lt (hx : upto < x) : rateAt (⟨some upto, rate⟩ :: steps) x = rateAt steps x :=
  if_neg (not_le.mpr hx)

/-- The rate is that of a step, if there is one. -/
theorem rateAt_cases (steps : List Step) (x : ℝ) :
    rateAt steps x = 0 ∨ ∃ step ∈ steps, rateAt steps x = step.rate := by
  induction steps with
  | nil => exact .inl rfl
  | cons step steps ih =>
    obtain ⟨_ | upto, rate⟩ := step
    · exact .inr ⟨_, List.mem_cons_self, rfl⟩
    · rcases le_or_gt x upto with hx | hx
      · exact .inr ⟨_, List.mem_cons_self, rateAt_of_le hx⟩
      · rw [rateAt_of_lt hx]
        rcases ih with hzero | ⟨step, hstep, hrate⟩
        · exact .inl hzero
        · exact .inr ⟨step, List.mem_cons_of_mem _ hstep, hrate⟩

theorem rateAt_nonneg (hsteps : ∀ step ∈ steps, 0 ≤ step.rate) (x : ℝ) : 0 ≤ rateAt steps x := by
  rcases rateAt_cases steps x with hzero | ⟨step, hstep, hrate⟩
  · exact hzero.ge
  · exact hrate ▸ hsteps step hstep

theorem rateAt_le {bound : ℝ} (hbound : 0 ≤ bound) (hsteps : ∀ step ∈ steps, step.rate ≤ bound)
    (x : ℝ) : rateAt steps x ≤ bound := by
  rcases rateAt_cases steps x with hzero | ⟨step, hstep, hrate⟩
  · exact hzero.trans_le hbound
  · exact hrate ▸ hsteps step hstep

end Rates

/-! ### What accrues -/

section Integrals

variable {steps : List Step} {upto rate a b : ℝ}

/-- **The rate can be integrated over any interval.** -/
theorem intervalIntegrable_rateAt (steps : List Step) (a b : ℝ) :
    IntervalIntegrable (rateAt steps) volume a b := by
  induction steps with
  | nil => exact intervalIntegrable_const
  | cons step steps ih =>
    obtain ⟨_ | upto, rate⟩ := step
    · exact intervalIntegrable_const
    · -- the rate is the constant up to the limit, and the rest beyond it
      have hpiecewise : rateAt (⟨some upto, rate⟩ :: steps)
          = (Iic upto).piecewise (fun _ => rate) (rateAt steps) := rfl
      have hconst : IntervalIntegrable (fun _ => rate) volume a b := intervalIntegrable_const
      rw [intervalIntegrable_iff] at ih hconst ⊢
      rw [hpiecewise]
      exact Integrable.piecewise measurableSet_Iic hconst.integrableOn ih.integrableOn

theorem integral_rateAt_unbounded (rate : ℝ) (steps : List Step) (a b : ℝ) :
    ∫ x in a..b, rateAt (⟨none, rate⟩ :: steps) x = (b - a) * rate := by
  simp only [rateAt_unbounded, integral_const, smul_eq_mul]

/-- Within the first step its rate accrues. -/
theorem integral_rateAt_first (hab : a ≤ b) (hb : b ≤ upto) :
    ∫ x in a..b, rateAt (⟨some upto, rate⟩ :: steps) x = (b - a) * rate := by
  have hsame : EqOn (rateAt (⟨some upto, rate⟩ :: steps)) (fun _ => rate) (uIcc a b) := by
    intro x hx
    rw [uIcc_of_le hab] at hx
    exact rateAt_of_le (hx.2.trans hb)
  rw [integral_congr hsame, integral_const, smul_eq_mul]

/-- **Beyond the first step its whole length accrues, and then what comes after it.** -/
theorem integral_rateAt_cons (ha : a ≤ upto) (hb : upto ≤ b) :
    ∫ x in a..b, rateAt (⟨some upto, rate⟩ :: steps) x
      = (upto - a) * rate + ∫ x in upto..b, rateAt steps x := by
  have hrest : ∫ x in upto..b, rateAt (⟨some upto, rate⟩ :: steps) x
      = ∫ x in upto..b, rateAt steps x := by
    apply integral_congr_uIoo
    intro x hx
    rw [uIoo_of_le hb] at hx
    exact rateAt_of_lt hx.1
  rw [← integral_add_adjacent_intervals (intervalIntegrable_rateAt _ a upto)
    (intervalIntegrable_rateAt _ upto b), integral_rateAt_first ha le_rfl, hrest]

/-- Where no rate is negative, more accrues over more. -/
theorem integral_rateAt_mono {c : ℝ} (hsteps : ∀ step ∈ steps, 0 ≤ step.rate) (hbc : b ≤ c) :
    ∫ x in a..b, rateAt steps x ≤ ∫ x in a..c, rateAt steps x := by
  have hmore : 0 ≤ ∫ x in b..c, rateAt steps x :=
    integral_nonneg hbc fun x _ => rateAt_nonneg hsteps x
  rw [← integral_add_adjacent_intervals (intervalIntegrable_rateAt steps a b)
    (intervalIntegrable_rateAt steps b c)]
  exact le_add_of_nonneg_right hmore

/-- No more accrues than at a bound of the rates. -/
theorem integral_rateAt_le {bound : ℝ} (hbound : 0 ≤ bound)
    (hsteps : ∀ step ∈ steps, step.rate ≤ bound) (hab : a ≤ b) :
    ∫ x in a..b, rateAt steps x ≤ (b - a) * bound := by
  calc ∫ x in a..b, rateAt steps x
      ≤ ∫ _ in a..b, bound := integral_mono hab (intervalIntegrable_rateAt steps a b)
        intervalIntegrable_const fun x => rateAt_le hbound hsteps x
    _ = (b - a) * bound := by rw [integral_const, smul_eq_mul]

end Integrals

end StepRates
