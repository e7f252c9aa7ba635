import GroceryErp.Payroll.Overtime

/-!
# Hours as decimals

The hours of a segment are a quotient of microseconds, of which the context keeps 28 digits.  The
engine goes on with that quotient; the lines of the model name the hours themselves, and only
their amounts come from the quotient.  What the columns keep of a line is the same, as hours are
whole microseconds and thresholds have two decimals: rounding to 28 digits takes no hours across a
threshold, nor across the middle between two values of the column.

## Main definitions

* `hourlyLinesInContext` — the lines of a segment as the engine writes them.
* `WorkedHours` — hours that are whole microseconds, and fit into their column.

## Main results

* `WorkedHours.lt_inContext_iff` — the quotient is beyond a threshold when the hours are.
* `WorkedHours.numeric_inContext_sub` — the column keeps the same overtime of both.
* `hourlyLines_stored` — the columns keep the same lines.
* `workedHours_segment` — the hours of a segment are whole microseconds.
-/

namespace GroceryErp

open Decimal

/-- The lines of a segment paid by the hour, as the engine writes them: `quotient` is what
`_sum_attendance_hours` has returned. -/
def hourlyLinesInContext (overtimePolicy : Option OvertimePolicy) (quotient : ℚ)
    (segment : CompensationSegment) : List PayrollEarningLine :=
  let comp := segment.value.val
  let label := (segment.first, segment.last)
  match if comp.overtimeEligible then overtimePolicy else none with
  | none => [⟨.regular, some quotient, some comp.rate, hourlyAmount quotient comp.rate, label⟩]
  | some policy =>
    let regularHours := min quotient policy.thresholdHoursPerPeriod
    let overtimeHours := max 0 (inContext (quotient - policy.thresholdHoursPerPeriod))
    let overtimeRate := inContext (comp.rate * policy.multiplier)
    ⟨.regular, some regularHours, some comp.rate, hourlyAmount regularHours comp.rate, label⟩ ::
      if 0 < overtimeHours then
        [⟨.overtime, some overtimeHours, some overtimeRate,
          hourlyAmount overtimeHours overtimeRate, label⟩]
      else []

/-! ### What the context keeps -/

/-- Ten decimals of a number below a hundred million are kept. -/
theorem inContext_eq_self {x : ℚ} (hgrid : OnGrid 10 x) (hx : 0 ≤ x) (hsmall : x < 10 ^ 8) :
    inContext x = x := by
  refine significant_eq_self hgrid ?_
  rw [abs_of_nonneg hx]
  exact hsmall.trans_le (by norm_num)

theorem le_inContext {x y : ℚ} (hgrid : OnGrid 10 y) (hsmall : y < 10 ^ 8) (hx : 0 ≤ x)
    (h : y ≤ x) : y ≤ inContext x := by
  rcases le_or_gt 0 y with hy | hy
  · exact le_significant (by norm_num) hy (inContext_eq_self hgrid hy hsmall) h
  · exact hy.le.trans (inContext_nonneg hx)

theorem inContext_le {x y : ℚ} (hgrid : OnGrid 10 y) (hsmall : y < 10 ^ 8) (hx : 0 ≤ x)
    (h : x ≤ y) : inContext x ≤ y :=
  significant_le (by norm_num) hx (inContext_eq_self hgrid (hx.trans h) hsmall) h

/-! ### Whole microseconds -/

/-- Hours that are whole microseconds, and no more than their column holds. -/
structure WorkedHours (hours : ℚ) : Prop where
  microseconds : ∃ n : ℤ, hours = n / 3600000000
  nonneg : 0 ≤ hours
  small : hours < 10 ^ 6

namespace WorkedHours

variable {hours t : ℚ} (h : WorkedHours hours)

include h

/-- Hours below a value with three decimals are a microsecond below it, which is more than the
tenth decimal. -/
theorem le_sub_of_lt (hgrid : OnGrid 3 t) (hlt : hours < t) : hours ≤ t - quantum 10 := by
  obtain ⟨n, rfl⟩ := h.microseconds
  obtain ⟨k, rfl⟩ := hgrid
  have hwhole : (n : ℚ) < (k * 3600000 : ℤ) := by
    push_cast
    linarith
  have hwhole' : n + 1 ≤ k * 3600000 := by exact_mod_cast hwhole
  have hnext : ((n + 1 : ℤ) : ℚ) ≤ ((k * 3600000 : ℤ) : ℚ) := by exact_mod_cast hwhole'
  push_cast at hnext
  unfold quantum
  linarith

/-- Hours beyond a threshold are a microsecond beyond it, and their quotient is at least the next
value with ten decimals. -/
theorem add_quantum_le_inContext (hgrid : OnGrid 2 t) (hsmall : t < 10 ^ 7) (hlt : t < hours) :
    t + quantum 10 ≤ inContext hours := by
  have hnext : t + quantum 10 ≤ hours := by
    obtain ⟨n, hn⟩ := h.microseconds
    obtain ⟨k, hk⟩ := hgrid
    rw [hn, hk] at hlt ⊢
    have hwhole : ((k * 36000000 : ℤ) : ℚ) < n := by
      push_cast
      linarith
    have hwhole' : k * 36000000 + 1 ≤ n := by exact_mod_cast hwhole
    have hnext : ((k * 36000000 + 1 : ℤ) : ℚ) ≤ n := by exact_mod_cast hwhole'
    push_cast at hnext
    unfold quantum
    linarith
  have hten : OnGrid 10 t := hgrid.mono (by norm_num)
  have hquantum : quantum 10 < 1 := by norm_num [quantum]
  exact le_inContext (hten.add (onGrid_quantum 10)) (by linarith) h.nonneg hnext

/-- **The quotient is beyond a threshold just where the hours are.** -/
theorem lt_inContext_iff (hgrid : OnGrid 2 t) (hsmall : t < 10 ^ 7) :
    t < inContext hours ↔ t < hours := by
  constructor
  · intro hlt
    by_contra hle
    have hten : OnGrid 10 t := hgrid.mono (by norm_num)
    exact absurd hlt (not_lt.mpr (inContext_le hten (by linarith) h.nonneg (not_lt.mp hle)))
  · intro hlt
    exact (lt_add_of_pos_right t (quantum_pos 10)).trans_le
      (h.add_quantum_le_inContext hgrid hsmall hlt)

/-- The quotient is in the same interval around a value of the column as the hours. -/
theorem inContext_mem_cell : quantize 2 hours - quantum 2 / 2 ≤ inContext hours ∧
    inContext hours ≤ quantize 2 hours + quantum 2 / 2 - quantum 10 := by
  have hcell := (quantize_eq_iff h.nonneg (onGrid_quantize 2 hours)).mp rfl
  have hsmall := h.small
  have hhalf : quantum 2 / 2 = 5 / 1000 := by norm_num [quantum]
  have hgrid : OnGrid 3 (quantum 2 / 2) := ⟨5, by rw [hhalf]; norm_num⟩
  have hvalue : OnGrid 3 (quantize 2 hours) := (onGrid_quantize 2 hours).mono (by norm_num)
  have htiny : 0 < quantum 10 := quantum_pos 10
  have hlow : OnGrid 10 (quantize 2 hours - quantum 2 / 2) := (hvalue.sub hgrid).mono (by norm_num)
  have hhigh : OnGrid 10 (quantize 2 hours + quantum 2 / 2 - quantum 10) :=
    ((hvalue.add hgrid).mono (by norm_num)).sub (onGrid_quantum 10)
  refine ⟨le_inContext hlow (by linarith) h.nonneg hcell.1, ?_⟩
  exact inContext_le hhigh (by linarith) h.nonneg (h.le_sub_of_lt (hvalue.add hgrid) hcell.2)

/-- **The column keeps the same hours beyond a threshold, of the quotient and of the hours.** -/
theorem numeric_inContext_sub (hgrid : OnGrid 2 t) (ht : 0 ≤ t) (hle : t ≤ hours) :
    numeric 2 (inContext (inContext hours - t)) = numeric 2 (hours - t) := by
  obtain ⟨hlow, hhigh⟩ := h.inContext_mem_cell
  have hcell := (quantize_eq_iff h.nonneg (onGrid_quantize 2 hours)).mp rfl
  have hsmall := h.small
  have hten : OnGrid 10 t := hgrid.mono (by norm_num)
  have hhalf : quantum 2 / 2 = 5 / 1000 := by norm_num [quantum]
  have htiny : 0 < quantum 10 := quantum_pos 10
  have hbeyond : 0 ≤ inContext hours - t :=
    sub_nonneg.mpr (le_inContext hten (by linarith) h.nonneg hle)
  -- the value that the column keeps of the hours, less the threshold
  have hvalue : quantize 2 (hours - t) = quantize 2 hours - t := by
    rw [sub_eq_add_neg, quantize_add_of_onGrid hgrid.neg h.nonneg (by linarith), ← sub_eq_add_neg]
  have hgrid' : OnGrid 10 (quantize 2 hours - t) :=
    ((onGrid_quantize 2 hours).sub hgrid).mono (by norm_num)
  have hhalfGrid : OnGrid 10 (quantum 2 / 2) := ⟨50000000, by rw [hhalf]; norm_num⟩
  unfold numeric
  rw [hvalue, quantize_eq_iff (inContext_nonneg hbeyond) ((onGrid_quantize 2 hours).sub hgrid)]
  constructor
  · exact le_inContext (hgrid'.sub hhalfGrid) (by linarith) hbeyond (by linarith)
  · have hupper : inContext (inContext hours - t)
        ≤ quantize 2 hours - t + quantum 2 / 2 - quantum 10 :=
      inContext_le ((hgrid'.add hhalfGrid).sub (onGrid_quantum 10)) (by linarith) hbeyond
        (by linarith)
    linarith

/-- It keeps the same hours of both. -/
theorem numeric_inContext : numeric 2 (inContext hours) = numeric 2 hours := by
  obtain ⟨hlow, hhigh⟩ := h.inContext_mem_cell
  have htiny : 0 < quantum 10 := quantum_pos 10
  unfold numeric
  exact (quantize_eq_iff (inContext_nonneg h.nonneg) (onGrid_quantize 2 hours)).mpr
    ⟨hlow, by linarith⟩

end WorkedHours

/-! ### The lines -/

/-- The hours of a segment are whole microseconds. -/
theorem workedHours_segment {db : Db} {employeeId storeId : ℕ} {s : CompensationSegment}
    (hsmall : segmentHours db employeeId storeId s < 10 ^ 6) :
    WorkedHours (segmentHours db employeeId storeId s) where
  microseconds := ⟨_, rfl⟩
  nonneg := segmentHours_nonneg db employeeId storeId s
  small := hsmall

/-- **What the columns keep of the lines of a segment is what the engine writes**, when the
threshold has the two decimals of its column. -/
theorem hourlyLines_stored {overtimePolicy : Option OvertimePolicy} {hours : ℚ}
    {segment : CompensationSegment} (h : WorkedHours hours)
    (hpolicy : ∀ policy ∈ overtimePolicy, OnGrid 2 policy.thresholdHoursPerPeriod ∧
      0 < policy.thresholdHoursPerPeriod ∧ policy.thresholdHoursPerPeriod < 10 ^ 4) :
    (hourlyLines overtimePolicy hours segment).map PayrollEarningLine.stored
      = (hourlyLinesInContext overtimePolicy (inContext hours) segment).map
          PayrollEarningLine.stored := by
  unfold hourlyLines hourlyLinesInContext
  dsimp only
  generalize hfound : (if segment.value.val.overtimeEligible then overtimePolicy else none) = found
  cases found with
  | none =>
    simp only [List.map_cons, List.map_nil, PayrollEarningLine.stored, Option.map_some,
      h.numeric_inContext]
  | some policy =>
    have hmem : policy ∈ overtimePolicy := by
      split at hfound
      · exact hfound
      · cases hfound
    obtain ⟨hgrid, hpos, hsmall⟩ := hpolicy policy hmem
    have hsmall' : policy.thresholdHoursPerPeriod < 10 ^ 7 := hsmall.trans (by norm_num)
    have hside := h.lt_inContext_iff hgrid hsmall'
    dsimp only
    by_cases hover : policy.thresholdHoursPerPeriod < hours
    · -- both the hours and their quotient are beyond the threshold
      have hquotient := h.add_quantum_le_inContext hgrid hsmall' hover
      have hexcess : 0 < inContext (inContext hours - policy.thresholdHoursPerPeriod) := by
        have hquantum : quantum 10 ≤ inContext hours - policy.thresholdHoursPerPeriod := by linarith
        exact (quantum_pos 10).trans_le (le_inContext (onGrid_quantum 10) (by norm_num [quantum])
          ((quantum_pos 10).le.trans hquantum) hquantum)
      rw [min_eq_right hover.le, min_eq_right (hside.mpr hover).le,
        max_eq_right (sub_pos.mpr hover).le, max_eq_right hexcess.le, if_pos (sub_pos.mpr hover),
        if_pos hexcess]
      simp only [List.map_cons, List.map_nil, PayrollEarningLine.stored, Option.map_some,
        h.numeric_inContext_sub hgrid hpos.le hover.le]
    · -- neither is
      have hunder := not_lt.mp (hside.not.mpr hover)
      have hexcess : inContext (inContext hours - policy.thresholdHoursPerPeriod) ≤ 0 :=
        significant_nonpos (sub_nonpos.mpr hunder)
      rw [min_eq_left (not_lt.mp hover), min_eq_left hunder,
        max_eq_left (sub_nonpos.mpr (not_lt.mp hover)), max_eq_left hexcess, if_neg (lt_irrefl 0)]
      simp only [List.map_cons, List.map_nil, PayrollEarningLine.stored, Option.map_some,
        h.numeric_inContext]

end GroceryErp
