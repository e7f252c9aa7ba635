import GroceryErp.Payroll.Lifecycle
import GroceryErp.Payroll.Overtime

/-!
# Net pay

What the tables refuse of a calculation.  A deduction does not look at the pay that is left, and
only the last write of a calculation has its `IntegrityError` turned into an error of the
service: an employee of whom more is withheld than is earned, or a negative deduction of an
employee who is not the last, ends the calculation with the error of the database.  Which of them
is met first depends on the order in which the database returns the employees.

## Main definitions

* `grossOf`, `withheldOf` — what an employee earns in a period, and what is withheld of it.
* `Overdrawn`, `Negates` — the results, and the lines, that the tables refuse.
* `RefusedByTables` — a calculation meets such an employee before it meets a gap.
* `calculatePayrollPeriodOf` — a calculation whose employees come in a given order.
* `Settles` — a calculation stores pay that adds up, or fails with an error of the service.

## Main results

* `coveredUntil_iff` — when the engine finds no gap.
* `draftResults_cases` — what the loop over the employees ends with.
* `calculatePayrollPeriod_settles_iff` — when a calculation settles, in one order and in all.
* `deduction_breaks_constraint` — a flat deduction of an employee who has not worked.

## References

`backend/app/modules/payroll/calculation.py`, `backend/app/modules/payroll/models.py`,
`backend/app/modules/payroll/service.py`.
-/

namespace GroceryErp

open Decimal Effective Outcome Readings Rows Runs

variable {db db' : Db} {payrollPeriodId employeeId : ℕ} {period : PayrollPeriod}

/-! ### What is earned, and what is withheld -/

/-- On every day of the period the employee has a compensation. -/
def PaidThroughout (db : Db) (period : PayrollPeriod) (employeeId : ℕ) : Prop :=
  ∀ d, period.periodStart ≤ d → d ≤ period.periodEnd → compensationOn db employeeId d ≠ none

/-- The overtime policy of a day. -/
def overtimePolicyOn (db : Db) (asOf : Date) : Option OvertimePolicy :=
  (db.hr.overtimePolicies.on () asOf).map Subtype.val

/-- The lines of an employee's pay, segment by segment. -/
def earningLinesOf (db : Db) (period : PayrollPeriod) (employeeId : ℕ) : List PayrollEarningLine :=
  (segmentsIn db employeeId period).flatMap fun s =>
    segmentLines (overtimePolicyOn db period.periodEnd)
      (daysFrom period.periodStart period.periodEnd)
      (segmentHours db employeeId period.storeId s) s

/-- What the employee earns in the period. -/
def grossOf (db : Db) (period : PayrollPeriod) (employeeId : ℕ) : ℚ :=
  ((earningLinesOf db period employeeId).map PayrollEarningLine.amount).sum

/-- What a deduction takes of a gross pay. -/
def deductionOf (grossPay : ℚ) (config : DeductionConfigInput) : ℚ :=
  roundMoney (applyDeduction grossPay config.calculationMethod)

/-- What is withheld of the employee's pay. -/
def withheldOf (db : Db) (period : PayrollPeriod) (employeeId : ℕ) : ℚ :=
  sumWhere (·.isEmployerContribution = false) (deductionOf (grossOf db period employeeId))
    (resolveDeductionConfigs db period.periodEnd)

/-- More is withheld than is earned, or less than nothing. -/
def Overdrawn (db : Db) (period : PayrollPeriod) (employeeId : ℕ) : Prop :=
  grossOf db period employeeId < withheldOf db period employeeId ∨
    withheldOf db period employeeId < 0

instance (db : Db) (period : PayrollPeriod) (employeeId : ℕ) :
    Decidable (Overdrawn db period employeeId) := inferInstanceAs (Decidable (_ ∨ _))

/-- Some deduction or contribution of the employee is negative. -/
def Negates (db : Db) (period : PayrollPeriod) (employeeId : ℕ) : Prop :=
  ∃ config ∈ resolveDeductionConfigs db period.periodEnd,
    deductionOf (grossOf db period employeeId) config < 0

instance (db : Db) (period : PayrollPeriod) (employeeId : ℕ) :
    Decidable (Negates db period employeeId) := inferInstanceAs (Decidable (∃ _ ∈ _, _))

/-- Among these employees, in their order, and before any with a gap, there is one who is
overdrawn, or who follows one with a negative deduction. -/
def RefusedByTables (db : Db) (period : PayrollPeriod) (employeeIds : List ℕ) : Prop :=
  ∃ before employeeId after, employeeIds = before ++ employeeId :: after ∧
    (∀ e ∈ before ++ [employeeId], PaidThroughout db period e) ∧
    (Overdrawn db period employeeId ∨ ∃ e ∈ before.getLast?, Negates db period e)

/-! ### The engine -/

/-- **The segments cover a range just where every day of it has one.** -/
theorem coveredUntil_iff {segs : List CompensationSegment} {a b : Date}
    (hsorted : segs.Pairwise fun s t => s.first ≤ t.first)
    (hbounds : ∀ s ∈ segs, s.first ≤ s.last ∧ s.last ≤ b) :
    (∃ cursor ∈ coveredUntil segs a, b < cursor) ↔
      ∀ d, a ≤ d → d ≤ b → ∃ s ∈ segs, s.Has d := by
  -- along the segments; what holds is that each day before the cursor is covered
  induction segs generalizing a with
  | nil =>
    simp only [coveredUntil, List.foldlM_nil, Option.pure_def, Option.mem_def, Option.some.injEq,
      exists_eq_left', List.not_mem_nil, false_and, exists_false, imp_false]
    constructor
    · intro hlt d had hdb
      exact absurd (had.trans hdb) (not_le.mpr hlt)
    · intro h
      exact not_le.mp (h a le_rfl)
  | cons s segs ih =>
    obtain ⟨hfirst, hrest⟩ := List.pairwise_cons.mp hsorted
    obtain ⟨hdays, hend⟩ := hbounds s List.mem_cons_self
    -- a gap before the first segment, which no later one can fill
    by_cases hgap : a < s.first
    · have hnone : coveredUntil (s :: segs) a = none := by simp [coveredUntil, hgap]
      rw [hnone]
      refine iff_of_false (by simp) fun h => ?_
      obtain ⟨t, ht, hta, -⟩ := h a le_rfl (hgap.le.trans (hdays.trans hend))
      rcases List.mem_cons.mp ht with rfl | ht
      · exact absurd hta (not_le.mpr hgap)
      · exact absurd ((hfirst t ht).trans hta) (not_le.mpr hgap)
    -- the cursor moves past this segment, unless it was further already
    · have hstep : coveredUntil (s :: segs) a = coveredUntil segs (max a (s.last + 1)) := by
        simp [coveredUntil, hgap]
      rw [hstep, ih hrest fun t ht => hbounds t (List.mem_cons_of_mem s ht)]
      constructor
      · intro h d had hdb
        rcases le_or_gt d s.last with hlast | hlast
        · exact ⟨s, List.mem_cons_self, (not_lt.mp hgap).trans had, hlast⟩
        · obtain ⟨t, ht, hhas⟩ := h d (max_le had (Int.add_one_le_iff.mpr hlast)) hdb
          exact ⟨t, List.mem_cons_of_mem s ht, hhas⟩
      · intro h d hcursor hdb
        obtain ⟨t, ht, hhas⟩ := h d ((le_max_left _ _).trans hcursor) hdb
        rcases List.mem_cons.mp ht with rfl | ht
        · have hlater : t.last < d := Int.add_one_le_iff.mp ((le_max_right _ _).trans hcursor)
          exact absurd hhas.2 (not_le.mpr hlater)
        · exact ⟨t, ht, hhas⟩

/-- The lines of the deductions, in their order. -/
theorem withhold_deductionLines (grossPay : ℚ) (configs : List DeductionConfigInput) :
    (withhold grossPay configs).deductionLines = configs.map fun c =>
      ⟨c.deductionTypeId, c.isEmployerContribution, deductionOf grossPay c⟩ := by
  have hfold : ∀ acc : Withholding,
      (configs.foldl (Withholding.add grossPay) acc).deductionLines
        = acc.deductionLines ++ configs.map fun c =>
          ⟨c.deductionTypeId, c.isEmployerContribution, deductionOf grossPay c⟩ := by
    induction configs with
    | nil => simp
    | cons c configs ih =>
      intro acc
      rw [List.foldl_cons, ih]
      simp [Withholding.add, deductionOf]
  exact hfold {}

theorem withheldBy_map (employer : Bool) (grossPay : ℚ) (configs : List DeductionConfigInput) :
    withheldBy employer (configs.map fun c =>
        ⟨c.deductionTypeId, c.isEmployerContribution, deductionOf grossPay c⟩)
      = sumWhere (·.isEmployerContribution = employer) (deductionOf grossPay) configs := by
  unfold withheldBy
  induction configs with
  | nil => rfl
  | cons c configs ih => rw [List.map_cons, sumWhere_cons, sumWhere_cons, ih]

/-- A segment pays nothing negative: its hours, its days and the rate are all at least zero. -/
theorem segmentLines_nonneg {asOf : Date} {days hours : ℚ} {s : CompensationSegment}
    (hdays : 0 ≤ days) (hhours : 0 ≤ hours) (hsegment : s.first ≤ s.last)
    {l : PayrollEarningLine} (hl : l ∈ segmentLines (overtimePolicyOn db asOf) days hours s) :
    l.Checks := by
  have hrate : 0 ≤ s.value.val.rate := s.value.property
  have hquotient : 0 ≤ inContext hours := inContext_nonneg hhours
  unfold segmentLines at hl
  split at hl
  · unfold hourlyLines at hl
    dsimp only at hl
    split at hl
    · rw [List.mem_singleton] at hl
      subst hl
      exact ⟨by simp [hhours], hourlyAmount_nonneg hquotient hrate⟩
    · next policy hpolicy =>
      have hchecks : policy.Checks := by
        split at hpolicy
        · obtain ⟨row, -, rfl⟩ := Option.map_eq_some_iff.mp hpolicy
          exact row.property
        · cases hpolicy
      have hmultiplier : 0 ≤ policy.multiplier := zero_le_one.trans hchecks.multiplier_valid
      have hthreshold := hchecks.threshold_positive.le
      have hregular : 0 ≤ min hours policy.thresholdHoursPerPeriod := le_min hhours hthreshold
      -- the regular hours, and those above the threshold if there are any
      rcases List.mem_cons.mp hl with rfl | hl
      · exact ⟨by simpa using hregular, hourlyAmount_nonneg (le_min hquotient hthreshold) hrate⟩
      · split at hl
        · rw [List.mem_singleton] at hl
          subst hl
          exact ⟨by simp, hourlyAmount_nonneg (le_max_left _ _)
            (inContext_nonneg (mul_nonneg hrate hmultiplier))⟩
        · cases hl
  · rw [List.mem_singleton] at hl
    subst hl
    exact ⟨by simp, salaryAmount_nonneg hdays hsegment⟩

/-- A day of the period has a segment where the employee has a compensation. -/
theorem paidThroughout_iff : PaidThroughout db period employeeId ↔
    ∀ d, period.periodStart ≤ d → d ≤ period.periodEnd →
      ∃ s ∈ segmentsIn db employeeId period, s.Has d := by
  refine forall_congr' fun d => forall₂_congr fun hstart hend => ?_
  rw [Option.ne_none_iff_exists']
  constructor
  · rintro ⟨c, hc⟩
    obtain ⟨s, hs, hhas, -⟩ := (exists_segment_iff hstart hend).mpr hc
    exact ⟨s, hs, hhas⟩
  · rintro ⟨s, hs, hhas⟩
    exact ⟨s.value, (exists_segment_iff hstart hend).mp ⟨s, hs, hhas, rfl⟩⟩

/-- **The engine fails just where a day of the period has no compensation.** -/
theorem calculateEmployeePay_eq_none_iff (hrange : period.periodStart ≤ period.periodEnd)
    {hours : ℕ → ℚ} {policy : Option OvertimePolicy} {configs : List DeductionConfigInput} :
    calculateEmployeePay (segmentsIn db employeeId period) period.periodStart period.periodEnd
      hours policy configs = none ↔ ¬PaidThroughout db period employeeId := by
  have hsorted : (segmentsIn db employeeId period).Pairwise fun s t => s.first ≤ t.first :=
    segments_sorted
  have hcovered := coveredUntil_iff (a := period.periodStart) (b := period.periodEnd) hsorted
    fun s hs => (segment_bounds hrange hs).2
  rw [← paidThroughout_iff] at hcovered
  have hempty : segmentsIn db employeeId period = [] → ¬PaidThroughout db period employeeId := by
    intro hnil hpaid
    obtain ⟨s, hs, -⟩ := paidThroughout_iff.mp hpaid _ le_rfl hrange
    rw [hnil] at hs
    cases hs
  unfold calculateEmployeePay
  rw [sortedBy_eq_self hsorted]
  dsimp only
  split
  · next hgap =>
    refine iff_of_true rfl ?_
    rcases hgap with hnil | hgap
    · exact hempty hnil
    · exact hcovered.not.mp hgap
  · next hgap =>
    rw [not_or, not_not] at hgap
    exact iff_of_false nofun (not_not.mpr (hcovered.mp hgap.2))

theorem calculateEmployeePay_deductionLines {segs : List CompensationSegment} {a b : Date}
    {hours : ℕ → ℚ} {policy : Option OvertimePolicy} {configs : List DeductionConfigInput}
    {pay : CalculationResult} (h : calculateEmployeePay segs a b hours policy configs = some pay) :
    pay.deductionLines = configs.map fun c =>
      ⟨c.deductionTypeId, c.isEmployerContribution, deductionOf pay.grossPay c⟩ := by
  unfold calculateEmployeePay at h
  dsimp only at h
  split at h
  · cases h
  · obtain rfl := Option.some.inj h
    exact withhold_deductionLines _ configs

/-! ### One employee -/

/-- The result of an employee that a calculation drafts. -/
structure DraftOf (db : Db) (payrollPeriodId : ℕ) (period : PayrollPeriod) (employeeId : ℕ)
    (r : PayrollEmployeeResult) : Prop where
  pays : PaysEmployee db payrollPeriodId period (overtimePolicyOn db period.periodEnd) employeeId r
  deduction_lines : r.deductionLines = (resolveDeductionConfigs db period.periodEnd).map fun c =>
    ⟨c.deductionTypeId, c.isEmployerContribution, deductionOf r.grossPay c⟩

theorem resolveOvertimePolicy_eq (db : Db) (asOf : Date) :
    resolveOvertimePolicy db asOf = .ok (overtimePolicyOn db asOf) := by
  have hfilter : (db.hr.overtimePolicies.rows.filter fun e => e.Covers asOf)
      = db.hr.overtimePolicies.rows.filter fun e => e.owner = () ∧ e.Covers asOf :=
    List.filter_congr fun e _ => by simp
  unfold resolveOvertimePolicy overtimePolicyOn History.on
  rw [hfilter, History.filter_covers, ← scalarOneOrNone_toList]
  cases db.hr.overtimePolicies.rows.find? _ <;> rfl

theorem resolveAssignmentAsOf_eq (db : Db) (employeeId : ℕ) (asOf : Date) :
    resolveAssignmentAsOf db employeeId asOf = .ok (db.hr.assignments.on employeeId asOf) := by
  unfold resolveAssignmentAsOf History.on
  rw [History.filter_covers, ← scalarOneOrNone_toList]
  cases db.hr.assignments.rows.find? _ <;> rfl

/-- **An employee whose compensation has a gap ends the calculation with a conflict.** -/
theorem draftResult_of_gap (hrange : period.periodStart ≤ period.periodEnd)
    {policy : Option OvertimePolicy} {configs : List DeductionConfigInput}
    (hgap : ¬PaidThroughout db period employeeId) :
    (draftResult payrollPeriodId period policy configs employeeId).eval db
      = .error (.conflict .missingCompensationCoverage) := by
  have hnone : ∀ hours : ℕ → ℚ, calculateEmployeePay
      (resolveCompensationSegments db employeeId period.periodStart period.periodEnd)
      period.periodStart period.periodEnd hours policy configs = none :=
    fun _ => (calculateEmployeePay_eq_none_iff hrange).mpr hgap
  unfold draftResult
  simp only [Reading.eval_bind, Reading.eval_ask, Reading.eval_lift, Reading.eval_query,
    Reading.eval_mapM_ask, Reading.eval_pure, bind_eq_error, Except.ok.injEq,
    exists_eq_left', hnone, orRaise_eq_error]
  simp

/-- **Any other is drafted**: an employee with a compensation on every day of the period has a
result. -/
theorem exists_draftResult (hrange : period.periodStart ≤ period.periodEnd)
    {policy : Option OvertimePolicy} {configs : List DeductionConfigInput}
    (hpaid : PaidThroughout db period employeeId) :
    ∃ r, (draftResult payrollPeriodId period policy configs employeeId).eval db = .ok r := by
  unfold draftResult
  simp only [Reading.eval_bind, Reading.eval_ask, Reading.eval_lift, Reading.eval_query,
    Reading.eval_mapM_ask, Reading.eval_pure, bind_eq_ok, Except.ok.injEq,
    exists_eq_left', orRaise_eq_ok]
  have hsome : ∀ hours : ℕ → ℚ, calculateEmployeePay (segmentsIn db employeeId period)
      period.periodStart period.periodEnd hours policy configs ≠ none :=
    fun _ => (calculateEmployeePay_eq_none_iff hrange).not.mpr (not_not.mpr hpaid)
  obtain ⟨pay, hpay⟩ := Option.ne_none_iff_exists'.mp (hsome _)
  have hne : segmentsIn db employeeId period ≠ [] := by
    intro hnil
    obtain ⟨s, hs, -⟩ := paidThroughout_iff.mp hpaid _ le_rfl hrange
    rw [hnil] at hs
    cases hs
  exact ⟨_, pay, hpay, _, List.getLast?_eq_some_getLast hne, _, resolveAssignmentAsOf_eq db _ _, rfl⟩

theorem draftOf_of_eval {r : PayrollEmployeeResult}
    (h : (draftResult payrollPeriodId period (overtimePolicyOn db period.periodEnd)
      (resolveDeductionConfigs db period.periodEnd) employeeId).eval db = .ok r) :
    DraftOf db payrollPeriodId period employeeId r := by
  refine ⟨draftResult_eq_ok h, ?_⟩
  unfold draftResult at h
  simp only [Reading.eval_bind, Reading.eval_ask, Reading.eval_lift, Reading.eval_query,
    Reading.eval_mapM_ask, Reading.eval_pure, bind_eq_ok, Except.ok.injEq, exists_eq_left',
    orRaise_eq_ok] at h
  obtain ⟨pay, hpay, -, -, -, -, rfl⟩ := h
  exact calculateEmployeePay_deductionLines hpay

namespace DraftOf

variable {r : PayrollEmployeeResult} (h : DraftOf db payrollPeriodId period employeeId r)

include h

theorem grossPay_eq : r.grossPay = grossOf db period employeeId := by
  rw [h.pays.adds.gross, h.pays.earning_lines]
  rfl

theorem totalDeductions_eq : r.totalDeductions = withheldOf db period employeeId := by
  rw [h.pays.adds.deductions, h.deduction_lines, withheldBy_map, h.grossPay_eq]
  rfl

theorem earning_checks (hrange : period.periodStart ≤ period.periodEnd) :
    ∀ l ∈ r.earningLines, l.Checks := by
  intro l hl
  rw [h.pays.earning_lines] at hl
  obtain ⟨s, hs, hl⟩ := List.mem_flatMap.mp hl
  exact segmentLines_nonneg (daysFrom_nonneg hrange) (segmentHours_nonneg db employeeId period.storeId s)
    (segment_bounds hrange hs).2.1 hl

theorem hoursAt_nonneg (hrange : period.periodStart ≤ period.periodEnd) (t : EarningType) :
    0 ≤ hoursAt t r.earningLines := by
  refine sumWhere_nonneg fun l hl _ => ?_
  have hchecks := h.earning_checks hrange l hl
  cases hhours : l.hours with
  | none => exact le_rfl
  | some q => exact hchecks.hours_nonneg q hhours

/-- **The tables refuse the result of an employee who is overdrawn, and no other.** -/
theorem headChecks_iff (hrange : period.periodStart ≤ period.periodEnd) :
    r.stored.HeadChecks ↔ ¬Overdrawn db period employeeId := by
  have hadds := h.pays.adds.stored
  obtain ⟨hgross, hdeductions, -, hnet⟩ := h.pays.adds.onGrid
  have hgross' : r.stored.grossPay = grossOf db period employeeId :=
    (numeric_eq_self hgross).trans h.grossPay_eq
  have hdeductions' : r.stored.totalDeductions = withheldOf db period employeeId :=
    (numeric_eq_self hdeductions).trans h.totalDeductions_eq
  unfold Overdrawn
  rw [not_or, not_lt, not_lt, ← hgross', ← hdeductions']
  constructor
  · intro hchecks
    have hpay := hchecks.net_pay_nonneg
    rw [hchecks.net_math] at hpay
    exact ⟨sub_nonneg.mp hpay, hchecks.total_deductions_nonneg⟩
  · rintro ⟨hle, hpos⟩
    refine ⟨?_, ?_, hpos.trans hle, hpos, ?_, hadds.net⟩
    · refine quantize_nonneg ?_
      rw [h.pays.regular_hours]
      exact h.hoursAt_nonneg hrange .regular
    · refine quantize_nonneg ?_
      rw [h.pays.overtime_hours]
      exact h.hoursAt_nonneg hrange .overtime
    · rw [hadds.net]
      exact sub_nonneg.mpr hle

/-- **Of a result that is taken, the lines are refused where one is negative.** -/
theorem checks_iff (hrange : period.periodStart ≤ period.periodEnd)
    (hhead : r.stored.HeadChecks) :
    Table.Checks r.stored ↔ ¬Negates db period employeeId := by
  have hlines : (∀ l ∈ r.stored.deductionLines, 0 ≤ l.amount) ↔ ¬Negates db period employeeId := by
    have hstored : r.stored.deductionLines = r.deductionLines.map PayrollDeductionLine.stored := rfl
    unfold Negates
    rw [hstored, List.forall_mem_map, h.deduction_lines, List.forall_mem_map]
    simp only [not_exists, not_and, not_lt, ← h.grossPay_eq]
    refine forall₂_congr fun c _ => ?_
    have hamount : numeric 2 (deductionOf r.grossPay c) = deductionOf r.grossPay c :=
      numeric_eq_self (onGrid_roundMoney _)
    simp only [PayrollDeductionLine.stored, hamount]
  constructor
  · intro hchecks
    exact hlines.mp hchecks.deduction_lines_nonneg
  · intro hnone
    refine ⟨hhead, ?_, hlines.mpr hnone⟩
    intro l hl
    obtain ⟨k, hk, rfl⟩ := List.mem_map.mp hl
    have hk := h.earning_checks hrange k hk
    refine ⟨?_, quantize_nonneg hk.amount_nonneg⟩
    intro q hq
    obtain ⟨q', hq', rfl⟩ := Option.mem_map.mp hq
    exact quantize_nonneg (hk.hours_nonneg q' hq')

end DraftOf

/-! ### The loop over the employees -/

/-- The same of the employees who come after another. -/
def RefusedAfter (db : Db) (period : PayrollPeriod) (previous : Option ℕ)
    (employeeIds : List ℕ) : Prop :=
  ∃ before employeeId after, employeeIds = before ++ employeeId :: after ∧
    (∀ e ∈ before ++ [employeeId], PaidThroughout db period e) ∧
    (Overdrawn db period employeeId ∨
      ∃ e ∈ (previous.toList ++ before).getLast?, Negates db period e)

theorem refusedAfter_none {employeeIds : List ℕ} :
    RefusedAfter db period none employeeIds ↔ RefusedByTables db period employeeIds := by
  simp [RefusedAfter, RefusedByTables]

theorem not_refusedAfter_nil {previous : Option ℕ} : ¬RefusedAfter db period previous [] := by
  rintro ⟨before, employeeId, after, hnil, -⟩
  exact List.append_ne_nil_of_right_ne_nil before (List.cons_ne_nil _ _) hnil.symm

/-- The first employee is refused, or one of the others. -/
theorem refusedAfter_cons {previous : Option ℕ} {employeeIds : List ℕ} :
    RefusedAfter db period previous (employeeId :: employeeIds) ↔
      PaidThroughout db period employeeId ∧
        ((Overdrawn db period employeeId ∨ ∃ e ∈ previous, Negates db period e) ∨
          RefusedAfter db period (some employeeId) employeeIds) := by
  constructor
  · rintro ⟨before, refused, after, hids, hpaid, hrefused⟩
    cases before with
    | nil =>
      obtain ⟨rfl, rfl⟩ := List.cons.inj hids
      refine ⟨hpaid employeeId (List.mem_singleton_self employeeId), .inl ?_⟩
      cases previous <;> simpa using hrefused
    | cons first before =>
      obtain ⟨rfl, rfl⟩ := List.cons.inj hids
      refine ⟨hpaid employeeId List.mem_cons_self, .inr ⟨before, refused, after, rfl, ?_, ?_⟩⟩
      · intro e he
        exact hpaid e (List.mem_cons_of_mem employeeId he)
      · rwa [List.getLast?_append_of_ne_nil _ (List.cons_ne_nil _ _)] at hrefused
  · rintro ⟨hpaid, hrefused | ⟨before, refused, after, rfl, hothers, hrefused⟩⟩
    · refine ⟨[], employeeId, employeeIds, rfl, by simpa using hpaid, ?_⟩
      cases previous <;> simpa using hrefused
    · refine ⟨employeeId :: before, refused, after, rfl, ?_, ?_⟩
      · exact List.forall_mem_cons.mpr ⟨hpaid, hothers⟩
      · rwa [List.getLast?_append_of_ne_nil _ (List.cons_ne_nil _ _)]

/-- **How the loop over the employees ends**: with the error of the database where the tables
refuse an employee, and else with all results, or at the first gap. -/
theorem draftResults_cases (hrange : period.periodStart ≤ period.periodEnd)
    (employeeIds : List ℕ) {previous : Option PayrollEmployeeResult} {previousId : Option ℕ}
    (hprevious : Option.Rel (fun r e => DraftOf db payrollPeriodId period e r ∧
      r.stored.HeadChecks) previous previousId) {ended : Result (List PayrollEmployeeResult)}
    (hended : (draftResults payrollPeriodId period (overtimePolicyOn db period.periodEnd)
      (resolveDeductionConfigs db period.periodEnd) previous employeeIds).eval db = ended) :
    (RefusedAfter db period previousId employeeIds ∧
        ended = .error (.integrity .payrollEmployeeResults)) ∨
      (¬RefusedAfter db period previousId employeeIds ∧
        ((∃ results, ended = .ok results) ∨
          ended = .error (.conflict .missingCompensationCoverage))) := by
  subst hended
  -- along the employees, with the result that the next flush will write
  induction employeeIds generalizing previous previousId with
  | nil => exact .inr ⟨not_refusedAfter_nil, .inl ⟨[], rfl⟩⟩
  | cons employeeId employeeIds ih =>
    simp only [draftResults, Reading.eval_bind, Reading.eval_lift, Reading.eval_pure]
    rw [refusedAfter_cons]
    by_cases hpaid : PaidThroughout db period employeeId
    · have hdrafted : ∃ r, (draftResult payrollPeriodId period
          (overtimePolicyOn db period.periodEnd) (resolveDeductionConfigs db period.periodEnd)
          employeeId).eval db = .ok r := exists_draftResult hrange hpaid
      obtain ⟨r, hr⟩ := hdrafted
      have hdraft := draftOf_of_eval hr
      -- the lines of the previous result go with the flush of this one
      have hlines : (∃ p ∈ previous, ¬Table.Checks p.stored) ↔
          ∃ e ∈ previousId, Negates db period e := by
        cases hprevious with
        | none => simp
        | some h => simp [h.1.checks_iff hrange h.2]
      rw [hr]
      -- the flush is refused for the head of this result or for the lines before it
      by_cases hrefused : Overdrawn db period employeeId ∨ ∃ e ∈ previousId, Negates db period e
      · refine .inl ⟨⟨hpaid, .inl hrefused⟩, ?_⟩
        refine bind_eq_error.mpr (.inr ⟨r, rfl, ?_⟩)
        refine check_bind_eq_error.mpr (.inl (raiseIf_eq_error.mpr ⟨?_, rfl⟩))
        rwa [hdraft.headChecks_iff hrange, not_not, hlines]
      · have hhead : r.stored.HeadChecks :=
          (hdraft.headChecks_iff hrange).mpr fun h => hrefused (.inl h)
        have htaken : ¬(¬r.stored.HeadChecks ∨ ∃ p ∈ previous, ¬Table.Checks p.stored) := by
          rwa [hdraft.headChecks_iff hrange, not_not, hlines]
        have hcheck : raiseIf (¬r.stored.HeadChecks ∨ ∃ p ∈ previous, ¬Table.Checks p.stored)
            (AppError.integrity .payrollEmployeeResults) = .ok () := raiseIf_eq_ok.mpr htaken
        rw [and_iff_right hpaid, or_iff_right hrefused]
        rcases ih (.some ⟨hdraft, hhead⟩) with ⟨hlater, herror⟩ | ⟨hnone, ⟨results, hok⟩ | hgap⟩
        · refine .inl ⟨hlater, bind_eq_error.mpr (.inr ⟨r, rfl, ?_⟩)⟩
          exact check_bind_eq_error.mpr (.inr ⟨hcheck, bind_eq_error.mpr (.inl herror)⟩)
        · refine .inr ⟨hnone, .inl ⟨r :: results, bind_eq_ok.mpr ⟨r, rfl, ?_⟩⟩⟩
          exact check_bind_eq_ok.mpr ⟨hcheck, bind_eq_ok.mpr ⟨results, hok, rfl⟩⟩
        · refine .inr ⟨hnone, .inr (bind_eq_error.mpr (.inr ⟨r, rfl, ?_⟩))⟩
          exact check_bind_eq_error.mpr (.inr ⟨hcheck, bind_eq_error.mpr (.inl hgap)⟩)
    · refine .inr ⟨fun h => hpaid h.1, .inr (bind_eq_error.mpr (.inl ?_))⟩
      exact draftResult_of_gap hrange hpaid

/-! ### Requests -/

/-- The request starts a calculation of the period. -/
structure Starts (db : Db) (req : CalculatePayrollPeriod) (period : Row PayrollPeriod) : Prop where
  by_actor : req.actorId ≠ none
  new : ¬req.Replayed db
  row : db.payroll.periods[req.payrollPeriodId]? = some period
  access : req.callerStoreId = none ∨ req.callerStoreId = some period.val.storeId
  calculable : period.val.status.Calculable

/-- The employees of the store during the period. -/
def employeesOf (db : Db) (period : PayrollPeriod) : List ℕ :=
  employeesAssignedToStoreDuring db period.storeId period.periodStart period.periodEnd

theorem nodup_employeesOf (db : Db) (period : PayrollPeriod) : (employeesOf db period).Nodup :=
  nodup_distinct _

/-- The database may answer the query for the employees with these, in this order. -/
def Returns (db : Db) (req : CalculatePayrollPeriod) (returned : List ℕ) : Prop :=
  ∀ period, Starts db req period → returned.Perm (employeesOf db period.val)

/-- What a calculation of the period reads when its employees come in this order, and the results
it comes to. -/
def calculationOf (payrollPeriodId : ℕ) (period : PayrollPeriod) (returned : List ℕ) :
    Reading Db AppError (List PayrollEmployeeResult) := do
  let overtimePolicy ← .query fun db => resolveOvertimePolicy db period.periodEnd
  let deductionConfigs ← .ask fun db => resolveDeductionConfigs db period.periodEnd
  draftResults payrollPeriodId period overtimePolicy deductionConfigs none returned

/-- `calculate_payroll_period`, when the query for the employees returns them in this order. -/
def calculatePayrollPeriodOf (returned : List ℕ) (db : Db) (req : CalculatePayrollPeriod) :
    Result Db := do
  let loaded ← loadForCalculation db req
  match loaded with
  | none => return db
  | some period => do
    let drafts ← (calculationOf req.payrollPeriodId period.val returned).eval db
    finishCalculation db req period drafts

/-- The tables after a request; what it has written before it fails is rolled back. -/
def afterCalculation (returned : List ℕ) (db : Db) (req : CalculatePayrollPeriod) : Db :=
  match calculatePayrollPeriodOf returned db req with
  | .ok db' => db'
  | .error _ => db

/-- The error is a `ConflictError` or a `ValidationAppError`, or says that there is no such period,
or that it is not one of the caller's store. -/
def RefusedByService (db : Db) (req : CalculatePayrollPeriod) (e : AppError) : Prop :=
  (∃ code, e = .conflict code ∨ e = .validation code) ∨
    (db.payroll.periods[req.payrollPeriodId]? = none ∧ e = .notFound) ∨
    ∃ period, db.payroll.periods[req.payrollPeriodId]? = some period ∧
      req.callerStoreId ≠ none ∧ req.callerStoreId ≠ some period.val.storeId ∧
      e = .forbidden .storeAccessDenied

/-- Every result of the period has net pay that is not negative, and adds up; a calculation that is
not a repeated one has a result for every employee. -/
structure PaysUp (db db' : Db) (req : CalculatePayrollPeriod) : Prop where
  net_nonneg : ∀ r ∈ resultsOf db' req.payrollPeriodId, 0 ≤ r.val.netPay
  adds : ∀ r ∈ resultsOf db' req.payrollPeriodId,
    r.val.grossPay = r.val.netPay + r.val.totalDeductions
  everyone : ∀ period, Starts db req period →
    ((resultsOf db' req.payrollPeriodId).map (·.val.employeeId)).Perm (employeesOf db period.val)

/-- A calculation stores pay that adds up, or fails with an error of the service and leaves the
results as they are. -/
def Settles (returned : List ℕ) (db : Db) (req : CalculatePayrollPeriod) : Prop :=
  (∃ db', calculatePayrollPeriodOf returned db req = .ok db' ∧ PaysUp db db' req) ∨
    ∃ e, calculatePayrollPeriodOf returned db req = .error e ∧ RefusedByService db req e ∧
      (afterCalculation returned db req).payroll.results = db.payroll.results

/-- In some order the tables refuse one of these employees: somebody whose compensation has no
gap is overdrawn, or there are two such employees, and one has a negative deduction. -/
def RefusedInSomeOrder (db : Db) (period : PayrollPeriod) (employeeIds : List ℕ) : Prop :=
  ∃ e ∈ employeeIds, PaidThroughout db period e ∧
    (Overdrawn db period e ∨
      ∃ e' ∈ employeeIds, e' ≠ e ∧ PaidThroughout db period e' ∧ Negates db period e')

theorem loadForCalculation_eq_some_iff {req : CalculatePayrollPeriod} {period : Row PayrollPeriod} :
    loadForCalculation db req = .ok (some period) ↔ Starts db req period := by
  have haccess : ¬(req.callerStoreId ≠ none ∧ req.callerStoreId ≠ some period.val.storeId) ↔
      req.callerStoreId = none ∨ req.callerStoreId = some period.val.storeId := by
    rw [not_and_or, not_not, not_not]
  constructor
  · intro h
    obtain ⟨hrow, hcalculable, hnew⟩ := loadForCalculation_eq_some h
    unfold loadForCalculation lockPayrollPeriod enforceStoreAccess at h
    rw [if_neg hnew] at h
    simp only [↓check_bind_eq_ok, bind_eq_ok, raiseIf_eq_ok, orRaise_eq_ok, pure_eq_ok,
      Option.some.injEq] at h
    obtain ⟨hactor, period, -, hallowed, -, rfl⟩ := h
    exact ⟨hactor, hnew, hrow, haccess.mp hallowed, hcalculable⟩
  · intro h
    unfold loadForCalculation lockPayrollPeriod enforceStoreAccess
    rw [if_neg h.new]
    simp only [↓check_bind_eq_ok, bind_eq_ok, raiseIf_eq_ok, orRaise_eq_ok, pure_eq_ok]
    exact ⟨h.by_actor, period, h.row, haccess.mpr h.access, not_not.mpr h.calculable, rfl⟩

/-- A calculation that does not start is refused by the service. -/
theorem refusedByService_of_load {req : CalculatePayrollPeriod} {e : AppError}
    (h : loadForCalculation db req = .error e) : RefusedByService db req e := by
  unfold loadForCalculation lockPayrollPeriod enforceStoreAccess at h
  rw [check_bind_eq_error, raiseIf_eq_error] at h
  rcases h with ⟨-, rfl⟩ | ⟨-, h⟩
  · exact .inl ⟨_, .inr rfl⟩
  · split at h
    · cases h
    · simp only [↓check_bind_eq_error, bind_eq_error, raiseIf_eq_error, orRaise_eq_error,
        orRaise_eq_ok] at h
      rcases h with ⟨hnone, rfl⟩ | ⟨period, hrow, ⟨⟨hcaller, hstore⟩, rfl⟩ | ⟨-, h⟩⟩
      · exact .inr (.inl ⟨hnone, rfl⟩)
      · exact .inr (.inr ⟨period, hrow, hcaller, hstore, rfl⟩)
      · rcases h with ⟨-, rfl⟩ | ⟨-, h⟩
        · exact .inl ⟨_, .inl rfl⟩
        · cases h

/-- The last write of a calculation fails with an error of the service. -/
theorem finishCalculation_eq_error {req : CalculatePayrollPeriod} {period : Row PayrollPeriod}
    {drafts : List PayrollEmployeeResult} {e : AppError}
    (h : finishCalculation db req period drafts = .error e) :
    e = .conflict .duplicateCalculationRequest := by
  unfold finishCalculation at h
  rcases bind_eq_error.mp h with h | ⟨written, -, h⟩
  · refine onIntegrityError_eq_error ?_ h
    intro e₀ h
    rcases bind_eq_error.mp h with h | ⟨results, -, h⟩
    · obtain ⟨r, -, hflush⟩ := exists_of_mapM_eq_error h
      exact ⟨_, (flush_eq_error.mp hflush).2⟩
    · rcases check_bind_eq_error.mp h with h | ⟨-, h⟩
      · exact ⟨_, (raiseIf_eq_error.mp h).2.symm⟩
      · rcases bind_eq_error.mp h with h | ⟨calculated, -, h⟩
        · exact ⟨_, (flush_eq_error.mp h).2⟩
        · cases h
  · cases h

theorem employeeIds_of_pays {policy : Option OvertimePolicy} {employeeIds : List ℕ}
    {drafts : List PayrollEmployeeResult}
    (h : List.Forall₂ (PaysEmployee db payrollPeriodId period policy) employeeIds drafts) :
    drafts.map PayrollEmployeeResult.employeeId = employeeIds := by
  induction h with
  | nil => rfl
  | cons hpay _ ih => rw [List.map_cons, ih, hpay.of_employee]

/-- The calculation takes the employees as the query returns them; the requests of a run find them
in the order of the assignments. -/
theorem calculatePayrollPeriod_eq_of {req : CalculatePayrollPeriod} {period : Row PayrollPeriod}
    (h : Starts db req period) :
    calculatePayrollPeriod db req
      = calculatePayrollPeriodOf (employeesOf db period.val) db req := by
  have heval : (calculation req.payrollPeriodId period.val).eval db
      = (calculationOf req.payrollPeriodId period.val (employeesOf db period.val)).eval db := by
    simp only [calculation, calculationOf, Reading.eval_bind, Reading.eval_ask]
    rfl
  unfold calculatePayrollPeriod calculatePayrollPeriodOf
  rw [loadForCalculation_eq_some_iff.mpr h]
  exact congrArg (· >>= finishCalculation db req period) heval

section Orders

variable {req : CalculatePayrollPeriod} {returned : List ℕ}

/-- A calculation that starts is the loop over the employees, and the last write. -/
theorem calculatePayrollPeriodOf_of_starts {period : Row PayrollPeriod}
    (h : Starts db req period) :
    calculatePayrollPeriodOf returned db req = (draftResults req.payrollPeriodId period.val
      (overtimePolicyOn db period.val.periodEnd) (resolveDeductionConfigs db period.val.periodEnd)
      none returned).eval db >>= finishCalculation db req period := by
  have heval : (calculationOf req.payrollPeriodId period.val returned).eval db
      = (draftResults req.payrollPeriodId period.val (overtimePolicyOn db period.val.periodEnd)
          (resolveDeductionConfigs db period.val.periodEnd) none returned).eval db := by
    simp only [calculationOf, Reading.eval_bind, Reading.eval_query, Reading.eval_ask,
      resolveOvertimePolicy_eq]
    rfl
  unfold calculatePayrollPeriodOf
  rw [loadForCalculation_eq_some_iff.mpr h, ← heval]
  rfl

/-- What a calculation has stored pays up: no net pay is negative, gross and deductions add up, and
only results of the period have changed. -/
theorem paysUp_of_ok (hreturned : Returns db req returned)
    (h : calculatePayrollPeriodOf returned db req = .ok db') : PaysUp db db' req := by
  refine ⟨fun r _ => r.property.head.net_pay_nonneg, fun r _ => ?_, fun period hstarts => ?_⟩
  · rw [r.property.head.net_math]
    exact (sub_add_cancel _ _).symm
  · rw [calculatePayrollPeriodOf_of_starts hstarts, bind_eq_ok] at h
    obtain ⟨drafts, hdrafts, hdone⟩ := h
    have hpays := draftResults_eq_ok hdrafts
    have hcalculated : Calculated db db' req period drafts :=
      ⟨hstarts.row, hstarts.calculable, finishCalculation_ok hdone⟩
    have hresults := (resultsOf_calculated hcalculated (fun r hr =>
      (drafts_of_pays hpays r hr).1) req.payrollPeriodId).2 rfl
    have hids : (resultsOf db' req.payrollPeriodId).map (·.val.employeeId) = returned := by
      calc (resultsOf db' req.payrollPeriodId).map (·.val.employeeId)
          = ((resultsOf db' req.payrollPeriodId).map Subtype.val).map
              PayrollEmployeeResult.employeeId := (List.map_map ..).symm
        _ = drafts.map PayrollEmployeeResult.employeeId := by
            rw [hresults, List.map_map]
            rfl
        _ = returned := employeeIds_of_pays hpays
    rw [hids]
    exact hreturned period hstarts

/-- A request that the service refuses settles. -/
theorem settles_of_error {e : AppError} (h : calculatePayrollPeriodOf returned db req = .error e)
    (hrefused : RefusedByService db req e) : Settles returned db req := by
  refine .inr ⟨e, h, hrefused, ?_⟩
  unfold afterCalculation
  rw [h]

theorem settles_of_not_starts (h : ∀ period, ¬Starts db req period) : Settles returned db req := by
  cases hload : loadForCalculation db req with
  | error e =>
    have hfails : calculatePayrollPeriodOf returned db req = .error e := by
      unfold calculatePayrollPeriodOf
      rw [hload]
      rfl
    exact settles_of_error hfails (refusedByService_of_load hload)
  | ok loaded =>
    cases loaded with
    | none =>
      have hok : calculatePayrollPeriodOf returned db req = .ok db := by
        unfold calculatePayrollPeriodOf
        rw [hload]
        rfl
      -- the employees are not asked for
      exact .inl ⟨db, hok, paysUp_of_ok (fun period hperiod => absurd hperiod (h period)) hok⟩
    | some period => exact absurd (loadForCalculation_eq_some_iff.mp hload) (h period)

/-- The error of the database is none of the service's. -/
theorem not_settles_of_integrity {name : Constraint}
    (h : calculatePayrollPeriodOf returned db req = .error (.integrity name)) :
    ¬Settles returned db req := by
  rintro (⟨db', hok, -⟩ | ⟨e, herror, hservice, -⟩)
  · rw [h] at hok
    cases hok
  · rw [h] at herror
    cases herror
    rcases hservice with ⟨code, h | h⟩ | ⟨-, h⟩ | ⟨p, -, -, -, h⟩ <;> cases h

/-- **A calculation that starts settles just where its employees, as they come, are not refused.** -/
theorem settles_iff_of_starts {period : Row PayrollPeriod} (hreturned : Returns db req returned)
    (h : Starts db req period) :
    Settles returned db req ↔ ¬RefusedByTables db period.val returned := by
  have hcalculated : calculatePayrollPeriodOf returned db req = _ :=
    calculatePayrollPeriodOf_of_starts h
  rw [← refusedAfter_none]
  -- the loop ends with the error of the tables, with all results, or at a gap
  rcases draftResults_cases period.property.valid_range returned .none rfl with
    ⟨hrefused, herror⟩ | ⟨hnone, ⟨drafts, hdrafts⟩ | hgap⟩
  · rw [herror] at hcalculated
    exact iff_of_false (not_settles_of_integrity hcalculated) (not_not.mpr hrefused)
  · refine iff_of_true ?_ hnone
    rw [hdrafts] at hcalculated
    cases hdone : finishCalculation db req period drafts with
    | ok db' =>
      have hok : calculatePayrollPeriodOf returned db req = .ok db' := hcalculated.trans hdone
      exact .inl ⟨db', hok, paysUp_of_ok hreturned hok⟩
    | error e =>
      have hfails : calculatePayrollPeriodOf returned db req = .error e := hcalculated.trans hdone
      obtain rfl := finishCalculation_eq_error hdone
      exact settles_of_error hfails (.inl ⟨_, .inl rfl⟩)
  · refine iff_of_true ?_ hnone
    rw [hgap] at hcalculated
    exact settles_of_error hcalculated (.inl ⟨_, .inl rfl⟩)

/-- **Whether some order is refused can be told without the orders.** -/
theorem refusedInSomeOrder_iff {employeeIds : List ℕ} (hnodup : employeeIds.Nodup) :
    RefusedInSomeOrder db period employeeIds ↔
      ∃ returned, returned.Perm employeeIds ∧ RefusedByTables db period returned := by
  constructor
  · rintro ⟨e, he, hpaid, hover | ⟨e', he', hne, hpaid', hnegates⟩⟩
    · -- the overdrawn employee comes first
      refine ⟨e :: employeeIds.erase e, (List.perm_cons_erase he).symm, ?_⟩
      exact ⟨[], e, employeeIds.erase e, rfl, by simpa using hpaid, .inl hover⟩
    · -- the one with the negative deduction comes first, and the other next
      have hrest : e ∈ employeeIds.erase e' := (List.mem_erase_of_ne hne.symm).mpr he
      refine ⟨e' :: e :: (employeeIds.erase e').erase e, ?_, ?_⟩
      · exact (((List.perm_cons_erase hrest).symm).cons e').trans (List.perm_cons_erase he').symm
      · exact ⟨[e'], e, _, rfl, by simp [hpaid, hpaid'], .inr ⟨e', rfl, hnegates⟩⟩
  · rintro ⟨returned, hperm, before, e, after, rfl, hpaid, hrefused⟩
    have he : e ∈ employeeIds := hperm.mem_iff.mp (by simp)
    refine ⟨e, he, hpaid e (by simp), hrefused.imp_right ?_⟩
    rintro ⟨e', hlast, hnegates⟩
    have hmem : e' ∈ before := List.mem_of_getLast? hlast
    -- nobody comes twice
    have hne : e' ≠ e := by
      rintro rfl
      have hdistinct := hperm.nodup_iff.mpr hnodup
      exact (List.nodup_middle.mp hdistinct).notMem (List.mem_append_left after hmem)
    exact ⟨e', hperm.mem_iff.mp (by simp [hmem]), hne, hpaid e' (by simp [hmem]), hnegates⟩

end Orders

/-- **A calculation settles just where it does not start, or meets no employee whom the tables
refuse**: one overdrawn, or one who follows an employee with a negative deduction.  It settles in
whatever order the employees come just where there is no such employee in any of these orders. -/
theorem calculatePayrollPeriod_settles_iff (db : Db) (req : CalculatePayrollPeriod) :
    (∀ returned, Returns db req returned →
      (Settles returned db req ↔ ∀ period, Starts db req period →
        ¬RefusedByTables db period.val returned)) ∧
    ((∀ returned, Returns db req returned → Settles returned db req) ↔
      ∀ period, Starts db req period →
        ¬RefusedInSomeOrder db period.val (employeesOf db period.val)) := by
  -- a request starts on one period at most
  have hone : ∀ {period period' : Row PayrollPeriod}, Starts db req period →
      Starts db req period' → period = period' := fun h h' =>
    Option.some.inj (h.row.symm.trans h'.row)
  have horder : ∀ returned, Returns db req returned →
      (Settles returned db req ↔ ∀ period, Starts db req period →
        ¬RefusedByTables db period.val returned) := by
    intro returned hreturned
    by_cases hstarts : ∃ period, Starts db req period
    · obtain ⟨period, hperiod⟩ := hstarts
      rw [settles_iff_of_starts hreturned hperiod]
      constructor
      · intro h other hother
        obtain rfl := hone hperiod hother
        exact h
      · intro h
        exact h period hperiod
    · rw [not_exists] at hstarts
      exact iff_of_true (settles_of_not_starts hstarts) fun period h => absurd h (hstarts period)
  refine ⟨horder, ?_⟩
  constructor
  -- if some order is refused, the database may return the employees in it
  · intro h period hperiod hrefused
    obtain ⟨returned, hperm, hreturned⟩ :=
      (refusedInSomeOrder_iff (nodup_employeesOf db period.val)).mp hrefused
    have hreturns : Returns db req returned := fun other hother => hone hperiod hother ▸ hperm
    exact (horder returned hreturns).mp (h returned hreturns) period hperiod hreturned
  · intro h returned hreturns
    refine (horder returned hreturns).mpr fun period hperiod hrefused => ?_
    exact h period hperiod ((refusedInSomeOrder_iff (nodup_employeesOf db period.val)).mpr
      ⟨returned, hreturns period hperiod, hrefused⟩)

/-! ### A month without work -/

/-- Fifty are withheld of everyone, however much they have earned. -/
def withholdFifty : WorkforceRequest :=
  .configure {
    overtimePolicies := ∅
    deductionTypes := [⟨false, true⟩]
    deductionRates := ⟨[⟨0, .flatAmount 50, 0, none⟩], by decide +kernel⟩ }

/-- An employee paid by the hour has not worked. -/
def nothingEarned : Db :=
  value (WorkforceRequest.execAll newShops ([hireFor 0, withholdFifty, payByTheHour]
    ++ openedFor 0 0 1 30)) (by decide +kernel)

def firstCalculation : CalculatePayrollPeriod :=
  { payrollPeriodId := 0, actorId := some 0, now := 0 }

/-- **A flat deduction of an employee who has earned nothing** is not a conflict: the calculation
ends with the error of the table.  There is one employee, and so one order. -/
theorem deduction_breaks_constraint :
    Reaches WorkforceRequest.exec (fun _ _ => True) newShops nothingEarned ∧
      Returns nothingEarned firstCalculation [0] ∧
      errorOf (calculatePayrollPeriodOf [0] nothingEarned firstCalculation)
        = some (.integrity .payrollEmployeeResults) ∧
      ¬Settles [0] nothingEarned firstCalculation := by
  have hids : (nothingEarned.payroll.periods[0]?).map (employeesOf nothingEarned ·.val)
      = some [0] := by decide +kernel
  have herror : errorOf (calculatePayrollPeriodOf [0] nothingEarned firstCalculation)
      = some (.integrity .payrollEmployeeResults) := by decide +kernel
  refine ⟨reaches_of_foldlM (eq_ok_value _ _), ?_, herror, ?_⟩
  · intro period hstarts
    have hrow : nothingEarned.payroll.periods[0]? = some period := hstarts.row
    rw [hrow, Option.map_some, Option.some.injEq] at hids
    exact .of_eq hids.symm
  · cases hcalculated : calculatePayrollPeriodOf [0] nothingEarned firstCalculation with
    | ok db' =>
      rw [hcalculated] at herror
      cases herror
    | error e =>
      rw [hcalculated] at herror
      obtain rfl := Option.some.inj herror
      exact not_settles_of_integrity hcalculated

end GroceryErp
