import GroceryErp.Accounting.Journal
import GroceryErp.Hr.Attendance
import GroceryErp.Lib.Precision
import GroceryErp.Lib.Readings

/-!
# The payroll calculation

The engine is a function of what it is given: the compensation segments of an employee,
the hours of each, the overtime policy and the deductions.  Around it, one query after the
other gathers that for every employee assigned to the store at some time in the period.

## Main definitions

* `inContext` — what decimal arithmetic keeps of a result.
* `calculateEmployeePay` — the engine.
* `sumAttendanceHours`, `employeesAssignedToStoreDuring` and the other input resolvers.
* `draftResult`, `calculation` — the queries of a calculation, and the results it drafts.

## Main results

* `calculateEmployeePay_eq_some` — what the engine has checked and returns.
* `PaysEmployee`, `calculation_eq_ok` — what a calculation over one state gives.

## References

`backend/app/modules/payroll/calculation.py`, `backend/app/modules/payroll/service.py`.
-/

namespace GroceryErp

open Decimal Effective Outcome Readings Rows

/-! ### The engine -/

/-- A result of decimal arithmetic: the default context keeps 28 digits of it, half to even. -/
def inContext (x : ℚ) : ℚ := significant 28 x

theorem inContext_nonneg {x : ℚ} (hx : 0 ≤ x) : 0 ≤ inContext x := significant_nonneg hx

/-- `CompensationSegment`: the days of a period on which one compensation holds. -/
abbrev CompensationSegment := Segment (Row Compensation) Date

/-- `DeductionConfigInput`: one deduction or employer contribution, and how it is calculated from
the gross pay. -/
structure DeductionConfigInput where
  deductionTypeId : ℕ
  isEmployerContribution : Bool
  calculationMethod : CalculationMethod
  deriving DecidableEq

/-- `CalculationResult`; its lines are those that are stored later. -/
structure CalculationResult where
  regularHours : ℚ
  overtimeHours : ℚ
  grossPay : ℚ
  totalDeductions : ℚ
  totalEmployerContributions : ℚ
  netPay : ℚ
  earningLines : List PayrollEarningLine
  deductionLines : List PayrollDeductionLine

/-- `_apply_bracketed` from a limit on, with what has been taken so far.  Every difference, product,
quotient and sum passes `round`, which is that of the context; `max` and `min` are exact. -/
def bracketedTotal (round : ℚ → ℚ) (base : ℚ) : ℚ → ℚ → List Bracket → ℚ
  | total, _, [] => total
  | total, lower, bracket :: brackets =>
    match bracket.upto with
    | none =>
      round (total + round (round (max 0 (round (base - lower)) * bracket.percent) / 100))
    | some upto =>
      let portion := max 0 (round (min base upto - lower))
      let taken := round (total + round (round (portion * bracket.percent) / 100))
      if base ≤ upto then taken else bracketedTotal round base taken upto brackets

/-- The slices of `_apply_bracketed`, each from the bound of the one before, as they are before
anything is rounded. -/
def applyBracketed (base : ℚ) : ℚ → List Bracket → ℚ
  | _, [] => 0
  | lower, bracket :: brackets =>
    match bracket.upto with
    | none => max 0 (base - lower) * bracket.percent / 100
    | some upto =>
      max 0 (min base upto - lower) * bracket.percent / 100
        + if base ≤ upto then 0 else applyBracketed base upto brackets

/-- `_apply_deduction`; there is no taxable income apart from the gross pay. -/
def applyDeduction (grossPay : ℚ) : CalculationMethod → ℚ
  | .flatAmount amount => amount
  | .percentOfGross percent => inContext (inContext (grossPay * percent) / 100)
  | .percentOfTaxable percent => inContext (inContext (grossPay * percent) / 100)
  | .bracketed brackets => bracketedTotal inContext grossPay 0 0 brackets

/-- The first day after those the segments cover without a gap, from `cursor` on. -/
def coveredUntil (ordered : List CompensationSegment) (cursor : Date) : Option Date :=
  ordered.foldlM (fun cursor segment =>
    if cursor < segment.first then none else some (max cursor (segment.last + 1))) cursor

/-- The amount of a line of hours; the product has been rounded once before it is to cents. -/
def hourlyAmount (hours rate : ℚ) : ℚ := roundMoney (inContext (hours * rate))

theorem hourlyAmount_nonneg {hours rate : ℚ} (hhours : 0 ≤ hours) (hrate : 0 ≤ rate) :
    0 ≤ hourlyAmount hours rate :=
  quantize_nonneg (inContext_nonneg (mul_nonneg hhours hrate))

/-- 110 minutes at 5.07 an hour are 9.295, but the quotient that is kept of the hours is below
11 / 6, and so is the product. -/
example : hourlyAmount (inContext (11 / 6)) (507 / 100) = 929 / 100 := by decide +kernel

/-- The lines of a segment paid by the hour.  They name the hours there are; their amounts are
worked out from the quotient that the context keeps of these hours. -/
def hourlyLines (overtimePolicy : Option OvertimePolicy) (hours : ℚ)
    (segment : CompensationSegment) : List PayrollEarningLine :=
  let comp := segment.value.val
  let label := (segment.first, segment.last)
  let quotient := inContext hours
  match if comp.overtimeEligible then overtimePolicy else none with
  | none => [⟨.regular, some hours, some comp.rate, hourlyAmount quotient comp.rate, label⟩]
  | some policy =>
    let threshold := policy.thresholdHoursPerPeriod
    let overtimeHours := max 0 (hours - threshold)
    let overtimeRate := inContext (comp.rate * policy.multiplier)
    ⟨.regular, some (min hours threshold), some comp.rate,
        hourlyAmount (min quotient threshold) comp.rate, label⟩ ::
      if 0 < overtimeHours then
        [⟨.overtime, some overtimeHours, some overtimeRate,
          hourlyAmount (max 0 (inContext (quotient - threshold))) overtimeRate, label⟩]
      else []

/-- The number of days from `a` to `b`, both included. -/
def daysFrom (a b : Date) : ℚ := ((b - a + 1 : ℤ) : ℚ)

/-- The pay of a segment on a salary: its share of the days of the period. -/
def salaryAmount (fullPeriodDays : ℚ) (segment : CompensationSegment) : ℚ :=
  roundMoney (inContext
    (inContext (segment.value.val.rate * daysFrom segment.first segment.last) / fullPeriodDays))

theorem daysFrom_nonneg {a b : Date} (h : a ≤ b) : 0 ≤ daysFrom a b := by
  unfold daysFrom
  have hle := Int.sub_nonneg_of_le h
  have hdays : (0 : ℤ) ≤ b - a + 1 := by omega
  exact_mod_cast hdays

theorem salaryAmount_nonneg {days : ℚ} (hdays : 0 ≤ days) {s : CompensationSegment}
    (hs : s.first ≤ s.last) : 0 ≤ salaryAmount days s := by
  have hrate : 0 ≤ s.value.val.rate := s.value.property
  have hproduct := inContext_nonneg (mul_nonneg hrate (daysFrom_nonneg hs))
  exact quantize_nonneg (inContext_nonneg (div_nonneg hproduct hdays))

/-- The lines of one segment: regular and overtime hours for an hourly employee, a share of the
salary for any other. -/
def segmentLines (overtimePolicy : Option OvertimePolicy) (fullPeriodDays hours : ℚ)
    (segment : CompensationSegment) : List PayrollEarningLine :=
  match segment.value.val.payType with
  | .hourly => hourlyLines overtimePolicy hours segment
  | .salary =>
    [⟨.regular, none, some segment.value.val.rate, salaryAmount fullPeriodDays segment,
      (segment.first, segment.last)⟩]

/-- What the loop over the segments adds up; amounts are in cents, so that sums of them are
exact. -/
structure Earnings where
  totalRegularHours : ℚ := 0
  totalOvertimeHours : ℚ := 0
  grossPay : ℚ := 0
  earningLines : List PayrollEarningLine := []

/-- One more line, added to the hours of its kind and to the gross pay. -/
def Earnings.addLine (acc : Earnings) (l : PayrollEarningLine) : Earnings where
  totalRegularHours :=
    acc.totalRegularHours + if l.earningType = .regular then l.hours.getD 0 else 0
  totalOvertimeHours :=
    acc.totalOvertimeHours + if l.earningType = .overtime then l.hours.getD 0 else 0
  grossPay := acc.grossPay + l.amount
  earningLines := acc.earningLines ++ [l]

/-- The loop over the segments, in the order of their days, with the lines and sums so far. -/
def earn (overtimePolicy : Option OvertimePolicy) (fullPeriodDays : ℚ) (attendanceHours : ℕ → ℚ)
    (ordered : List CompensationSegment) : Earnings :=
  ordered.zipIdx.foldl (fun acc x =>
    (segmentLines overtimePolicy fullPeriodDays (attendanceHours x.2) x.1).foldl
      Earnings.addLine acc) {}

/-- What the loop over the deductions adds up: what is withheld, what the employer adds, and the
lines of both. -/
structure Withholding where
  totalDeductions : ℚ := 0
  totalEmployerContributions : ℚ := 0
  deductionLines : List PayrollDeductionLine := []

/-- One more deduction or contribution, rounded to cents before it is added. -/
def Withholding.add (grossPay : ℚ) (acc : Withholding) (config : DeductionConfigInput) :
    Withholding :=
  let amount := roundMoney (applyDeduction grossPay config.calculationMethod)
  { totalDeductions := acc.totalDeductions + if config.isEmployerContribution then 0 else amount
    totalEmployerContributions :=
      acc.totalEmployerContributions + if config.isEmployerContribution then amount else 0
    deductionLines :=
      acc.deductionLines ++ [⟨config.deductionTypeId, config.isEmployerContribution, amount⟩] }

/-- The loop over the deductions; each is computed from gross pay, whatever the others take. -/
def withhold (grossPay : ℚ) (configs : List DeductionConfigInput) : Withholding :=
  configs.foldl (Withholding.add grossPay) {}

/-- `calculate_employee_pay`; it fails where a day of the period has no compensation. -/
def calculateEmployeePay (compensationSegments : List CompensationSegment)
    (periodStart periodEnd : Date) (attendanceHours : ℕ → ℚ)
    (overtimePolicy : Option OvertimePolicy) (deductionConfigs : List DeductionConfigInput) :
    Option CalculationResult :=
  let ordered := sortedBy Segment.first compensationSegments
  if ordered = [] ∨ ¬∃ cursor ∈ coveredUntil ordered periodStart, periodEnd < cursor then none
  else
    let earned := earn overtimePolicy (daysFrom periodStart periodEnd) attendanceHours ordered
    let withheld := withhold earned.grossPay deductionConfigs
    some {
      regularHours := earned.totalRegularHours
      overtimeHours := earned.totalOvertimeHours
      grossPay := earned.grossPay
      totalDeductions := withheld.totalDeductions
      totalEmployerContributions := withheld.totalEmployerContributions
      netPay := earned.grossPay - withheld.totalDeductions
      earningLines := earned.earningLines
      deductionLines := withheld.deductionLines }

/-! ### What the engine adds up -/

/-- The hours that some lines pay at a type. -/
def hoursAt (t : EarningType) (lines : List PayrollEarningLine) : ℚ :=
  sumWhere (·.earningType = t) (fun l => l.hours.getD 0) lines

/-- The amounts of the lines that are, or are not, a contribution of the employer. -/
def withheldBy (employer : Bool) (lines : List PayrollDeductionLine) : ℚ :=
  sumWhere (·.isEmployerContribution = employer) PayrollDeductionLine.amount lines

/-- The totals of some earnings are those of their lines. -/
structure Earnings.Adds (acc : Earnings) : Prop where
  regular : acc.totalRegularHours = hoursAt .regular acc.earningLines
  overtime : acc.totalOvertimeHours = hoursAt .overtime acc.earningLines
  gross : acc.grossPay = (acc.earningLines.map PayrollEarningLine.amount).sum

theorem Earnings.Adds.foldl {lines : List PayrollEarningLine} {acc : Earnings} (h : acc.Adds) :
    (lines.foldl Earnings.addLine acc).Adds ∧
      (lines.foldl Earnings.addLine acc).earningLines = acc.earningLines ++ lines := by
  induction lines generalizing acc with
  | nil => exact ⟨h, by simp⟩
  | cons l lines ih =>
    have hadd : (acc.addLine l).Adds := by
      refine ⟨?_, ?_, ?_⟩ <;> simp [addLine, hoursAt, h.regular, h.overtime, h.gross]
    obtain ⟨hrest, hlines⟩ := ih hadd
    rw [List.foldl_cons]
    exact ⟨hrest, by rw [hlines]; simp [addLine]⟩

/-- A loop over lists of lines is a loop over their lines. -/
theorem foldl_addLine_flatMap {β : Type} (f : β → List PayrollEarningLine) (l : List β)
    (acc : Earnings) :
    l.foldl (fun acc x => (f x).foldl Earnings.addLine acc) acc
      = (l.flatMap f).foldl Earnings.addLine acc := by
  induction l generalizing acc with
  | nil => rfl
  | cons x l ih => rw [List.foldl_cons, ih, List.flatMap_cons, List.foldl_append]

theorem earn_adds (policy : Option OvertimePolicy) (days : ℚ) (hours : ℕ → ℚ)
    (ordered : List CompensationSegment) :
    (earn policy days hours ordered).Adds ∧ (earn policy days hours ordered).earningLines
      = ordered.zipIdx.flatMap fun x => segmentLines policy days (hours x.2) x.1 := by
  unfold earn
  rw [foldl_addLine_flatMap]
  have hstart : ({} : Earnings).Adds := ⟨rfl, rfl, rfl⟩
  exact hstart.foldl

/-- The totals of some deductions are those of their lines. -/
structure Withholding.Adds (acc : Withholding) : Prop where
  employee : acc.totalDeductions = withheldBy false acc.deductionLines
  employer : acc.totalEmployerContributions = withheldBy true acc.deductionLines

theorem withhold_adds (grossPay : ℚ) (configs : List DeductionConfigInput) :
    (withhold grossPay configs).Adds := by
  have hstart : ({} : Withholding).Adds := ⟨rfl, rfl⟩
  refine List.foldlRecOn configs (Withholding.add grossPay) hstart fun acc h config _ => ?_
  constructor
  · cases hemployer : config.isEmployerContribution <;>
      simp [Withholding.add, withheldBy, h.employee, hemployer]
  · cases hemployer : config.isEmployerContribution <;>
      simp [Withholding.add, withheldBy, h.employer, hemployer]

/-- An amount of money has two decimals. -/
theorem onGrid_roundMoney (x : ℚ) : OnGrid 2 (roundMoney x) := onGrid_quantize 2 x

theorem onGrid_segmentLines {policy : Option OvertimePolicy} {days hours : ℚ}
    {segment : CompensationSegment} {l : PayrollEarningLine}
    (h : l ∈ segmentLines policy days hours segment) : OnGrid 2 l.amount := by
  unfold segmentLines at h
  split at h
  · unfold hourlyLines at h
    dsimp only at h
    split at h
    · rw [List.mem_singleton] at h
      exact h ▸ onGrid_roundMoney _
    · rcases List.mem_cons.mp h with rfl | h
      · exact onGrid_roundMoney _
      · split at h
        · rw [List.mem_singleton] at h
          exact h ▸ onGrid_roundMoney _
        · cases h
  · rw [List.mem_singleton] at h
    exact h ▸ onGrid_roundMoney _

theorem onGrid_withhold {grossPay : ℚ} {configs : List DeductionConfigInput} :
    ∀ l ∈ (withhold grossPay configs).deductionLines, OnGrid 2 l.amount := by
  refine List.foldlRecOn (motive := fun acc : Withholding => ∀ l ∈ acc.deductionLines,
    OnGrid 2 l.amount) configs (Withholding.add grossPay) (by simp) fun acc h config _ l hl => ?_
  rcases List.mem_append.mp hl with hl | hl
  · exact h l hl
  · rw [List.mem_singleton] at hl
    exact hl ▸ onGrid_roundMoney _

/-- **The totals of a calculation are those of its lines.** -/
structure CalculationResult.Adds (pay : CalculationResult) : Prop where
  regular : pay.regularHours = hoursAt .regular pay.earningLines
  overtime : pay.overtimeHours = hoursAt .overtime pay.earningLines
  gross : pay.grossPay = (pay.earningLines.map PayrollEarningLine.amount).sum
  deductions : pay.totalDeductions = withheldBy false pay.deductionLines
  contributions : pay.totalEmployerContributions = withheldBy true pay.deductionLines
  net : pay.netPay = pay.grossPay - pay.totalDeductions
  deductions_onGrid : ∀ l ∈ pay.deductionLines, OnGrid 2 l.amount

/-- **What the engine has checked, and what it returns.** -/
theorem calculateEmployeePay_eq_some {segs : List CompensationSegment} {a b : Date}
    {hours : ℕ → ℚ} {policy : Option OvertimePolicy} {configs : List DeductionConfigInput}
    {pay : CalculationResult} (hsorted : segs.Pairwise fun s t => s.first ≤ t.first)
    (h : calculateEmployeePay segs a b hours policy configs = some pay) :
    segs ≠ [] ∧ (∃ cursor ∈ coveredUntil segs a, b < cursor) ∧ pay.Adds ∧
      pay.earningLines
        = segs.zipIdx.flatMap fun x => segmentLines policy (daysFrom a b) (hours x.2) x.1 := by
  unfold calculateEmployeePay at h
  rw [sortedBy_eq_self hsorted] at h
  dsimp only at h
  split at h
  · cases h
  · next hcond =>
    rw [not_or, not_not] at hcond
    obtain rfl := Option.some.inj h
    obtain ⟨hadds, hlines⟩ := earn_adds policy (daysFrom a b) hours segs
    have hwithheld := withhold_adds (earn policy (daysFrom a b) hours segs).grossPay configs
    exact ⟨hcond.1, hcond.2, ⟨hadds.regular, hadds.overtime, hadds.gross, hwithheld.employee,
      hwithheld.employer, rfl, onGrid_withhold⟩, hlines⟩

/-! ### The inputs -/

/-- `_employees_assigned_to_store_during`, in the order of the assignments.  The query asks for
none, so that a database may return the same employees in another. -/
def employeesAssignedToStoreDuring (db : Db) (storeId : ℕ) (periodStart periodEnd : Date) :
    List ℕ :=
  distinct ((db.hr.assignments.rows.filter fun e =>
    e.value.storeId = storeId ∧ e.Meets periodStart periodEnd).map Entry.owner)

/-- `_resolve_compensation_segments`: the rows of an employee that meet the period, cut to its days,
in the order of their beginnings. -/
def resolveCompensationSegments (db : Db) (employeeId : ℕ) (periodStart periodEnd : Date) :
    List CompensationSegment :=
  segments db.hr.compensations employeeId periodStart periodEnd

/-- The length of a shift, which is zero as long as nobody has clocked out. -/
def AttendanceRecord.microseconds (r : AttendanceRecord) : ℤ :=
  (r.clockOutAt.map (· - r.clockInAt)).getD 0

/-- The length of a shift, in hours and exactly. -/
def AttendanceRecord.hours (r : AttendanceRecord) : ℚ := r.microseconds / 3600000000

/-- `_sum_attendance_hours`: the microseconds, in hours.  The quotient is rounded in the context
where an amount is worked out from it. -/
def sumAttendanceHours (db : Db) (employeeId storeId : ℕ) (segStart segEnd : Date) : ℚ :=
  ((sumWhere (fun r => r.val.employeeId = employeeId ∧ r.val.storeId = storeId ∧
      segStart ≤ r.val.workDate ∧ r.val.workDate ≤ segEnd ∧ r.val.status = .closed)
    (·.val.microseconds) db.hr.attendance : ℤ) : ℚ) / 3600000000

/-- `_resolve_overtime_policy`: the one policy that is effective on a day. Two are an error of the
query, which the constraint on the table excludes. -/
def resolveOvertimePolicy (db : Db) (asOf : Date) : Result (Option OvertimePolicy) :=
  scalarOneOrNone ((db.hr.overtimePolicies.rows.filter fun e => e.Covers asOf).map (·.value.val))

/-- `_resolve_deduction_configs`: the rates that are effective on a day, of those types that are
active. -/
def resolveDeductionConfigs (db : Db) (asOf : Date) : List DeductionConfigInput :=
  (db.payroll.deductionRates.rows.filter fun e => e.Covers asOf).filterMap fun rate => do
    let deductionType ← db.payroll.deductionTypes[rate.owner]?
    if deductionType.isActive then
      some ⟨rate.owner, deductionType.isEmployerContribution, rate.value⟩
    else none

/-- `_resolve_assignment_as_of`: the assignment of an employee on a day, if there is one. -/
def resolveAssignmentAsOf (db : Db) (employeeId : ℕ) (asOf : Date) : Result (Option Assignment) :=
  scalarOneOrNone ((db.hr.assignments.rows.filter fun e =>
    e.owner = employeeId ∧ e.Covers asOf).map Entry.value)

/-! ### The queries of a calculation -/

/-- The result of one employee, before its columns round it. -/
def draftResult (payrollPeriodId : ℕ) (period : PayrollPeriod)
    (overtimePolicy : Option OvertimePolicy) (deductionConfigs : List DeductionConfigInput)
    (employeeId : ℕ) : Reading Db AppError PayrollEmployeeResult := do
  let rawSegments ← .ask fun db =>
    resolveCompensationSegments db employeeId period.periodStart period.periodEnd
  let attendanceHours ← rawSegments.mapM fun s => .ask fun db =>
    sumAttendanceHours db employeeId period.storeId s.first s.last
  let pay ← .lift (orRaise
    (calculateEmployeePay rawSegments period.periodStart period.periodEnd
      (fun index => attendanceHours.getD index 0) overtimePolicy deductionConfigs)
    (.conflict .missingCompensationCoverage))
  -- the engine has refused an empty list
  let lastComp ← .lift (orRaise rawSegments.getLast? .assertion)
  let assignment ← .query fun db => resolveAssignmentAsOf db employeeId period.periodEnd
  return {
    payrollPeriodId
    employeeId
    status := .draft
    storeId := period.storeId
    departmentId := assignment.bind Assignment.departmentId
    positionId := assignment.bind Assignment.positionId
    payType := lastComp.value.val.payType
    payRate := lastComp.value.val.rate
    currency := lastComp.value.val.currency
    regularHours := pay.regularHours
    overtimeHours := pay.overtimeHours
    grossPay := pay.grossPay
    totalDeductions := pay.totalDeductions
    totalEmployerContributions := pay.totalEmployerContributions
    netPay := pay.netPay
    earningLines := pay.earningLines
    deductionLines := pay.deductionLines }

/-- An earning line as its columns keep it. -/
def PayrollEarningLine.stored (l : PayrollEarningLine) : PayrollEarningLine :=
  { l with hours := l.hours.map (numeric 2), rate := l.rate.map (numeric 4),
           amount := numeric 2 l.amount }

/-- A deduction line as its columns keep it. -/
def PayrollDeductionLine.stored (l : PayrollDeductionLine) : PayrollDeductionLine :=
  { l with amount := numeric 2 l.amount }

/-- A result as its columns keep it: four decimals of the rate, and two of hours and amounts. -/
def PayrollEmployeeResult.stored (r : PayrollEmployeeResult) : PayrollEmployeeResult :=
  { r with
    payRate := numeric 4 r.payRate
    regularHours := numeric 2 r.regularHours
    overtimeHours := numeric 2 r.overtimeHours
    grossPay := numeric 2 r.grossPay
    totalDeductions := numeric 2 r.totalDeductions
    totalEmployerContributions := numeric 2 r.totalEmployerContributions
    netPay := numeric 2 r.netPay
    earningLines := r.earningLines.map PayrollEarningLine.stored
    deductionLines := r.deductionLines.map PayrollDeductionLine.stored }

/-- The results of the employees, one after the other.  A result is flushed when it is
drafted, its lines with the result of the next employee. -/
def draftResults (payrollPeriodId : ℕ) (period : PayrollPeriod)
    (overtimePolicy : Option OvertimePolicy) (deductionConfigs : List DeductionConfigInput) :
    Option PayrollEmployeeResult → List ℕ → Reading Db AppError (List PayrollEmployeeResult)
  | _, [] => return []
  | previous, employeeId :: employeeIds => do
    let result ← draftResult payrollPeriodId period overtimePolicy deductionConfigs employeeId
    .lift (raiseIf (¬result.stored.HeadChecks ∨ ∃ r ∈ previous, ¬Table.Checks r.stored)
      (.integrity .payrollEmployeeResults))
    let results ← draftResults payrollPeriodId period overtimePolicy deductionConfigs
      (some result) employeeIds
    return result :: results

/-- What a calculation of the period reads, and the results it comes to. -/
def calculation (payrollPeriodId : ℕ) (period : PayrollPeriod) :
    Reading Db AppError (List PayrollEmployeeResult) := do
  let overtimePolicy ← .query fun db => resolveOvertimePolicy db period.periodEnd
  let deductionConfigs ← .ask fun db => resolveDeductionConfigs db period.periodEnd
  let employeeIds ← .ask fun db =>
    employeesAssignedToStoreDuring db period.storeId period.periodStart period.periodEnd
  draftResults payrollPeriodId period overtimePolicy deductionConfigs none employeeIds

/-! ### What a calculation gives -/

variable {db : Db} {payrollPeriodId employeeId : ℕ} {period : PayrollPeriod}
  {policy : Option OvertimePolicy} {configs : List DeductionConfigInput}

/-- Hours are summed up over the shifts of the days. -/
theorem sumAttendanceHours_between (db : Db) (employeeId storeId : ℕ) (a b : Date) :
    sumAttendanceHours db employeeId storeId a b
      = sumWhere (fun r => (r.val.employeeId = employeeId ∧ r.val.storeId = storeId ∧
          r.val.status = .closed) ∧ a ≤ r.val.workDate ∧ r.val.workDate ≤ b) (·.val.hours)
          db.hr.attendance := by
  unfold sumAttendanceHours
  rw [sumWhere_congr (q := fun r : Row AttendanceRecord => (r.val.employeeId = employeeId ∧
    r.val.storeId = storeId ∧ r.val.status = .closed) ∧ a ≤ r.val.workDate ∧ r.val.workDate ≤ b)
    (fun r _ => by tauto) fun _ _ _ => rfl]
  induction db.hr.attendance with
  | nil => simp
  | cons r t ih =>
    rw [sumWhere_cons, sumWhere_cons, ← ih]
    split <;> simp [AttendanceRecord.hours, add_div]

/-- The hours of a segment are those of its shifts. -/
theorem sumAttendanceHours_eq (db : Db) (employeeId storeId : ℕ) (s : CompensationSegment) :
    sumAttendanceHours db employeeId storeId s.first s.last
      = sumWhere (fun r => (r.val.employeeId = employeeId ∧ r.val.storeId = storeId ∧
          r.val.status = .closed) ∧ s.Has r.val.workDate) (·.val.hours) db.hr.attendance :=
  sumAttendanceHours_between db employeeId storeId s.first s.last

/-- The hours of the segments, taken by their positions. -/
theorem flatMap_zipIdx_getD {β γ : Type} (f : ℚ → β → List γ) (g : β → ℚ) (l : List β) :
    l.zipIdx.flatMap (fun x => f ((l.map g).getD x.2 0) x.1) = l.flatMap fun b => f (g b) b := by
  have hrow : ∀ x ∈ l.zipIdx, f ((l.map g).getD x.2 0) x.1 = f (g x.1) x.1 := by
    intro x hx
    have hget := (List.mem_zipIdx_iff_getElem?.mp hx)
    rw [List.getD_eq_getElem?_getD, List.getElem?_map, hget, Option.map_some, Option.getD_some]
  rw [List.flatMap_congr hrow]
  calc l.zipIdx.flatMap (fun x => f (g x.1) x.1)
      = (l.zipIdx.map Prod.fst).flatMap fun b => f (g b) b := by rw [List.flatMap_map]
    _ = l.flatMap fun b => f (g b) b := by rw [List.zipIdx_map_fst]

/-- The totals of a result are those of its lines, whose amounts have two decimals. -/
structure PayrollEmployeeResult.Adds (r : PayrollEmployeeResult) : Prop where
  gross : r.grossPay = (r.earningLines.map PayrollEarningLine.amount).sum
  deductions : r.totalDeductions = withheldBy false r.deductionLines
  contributions : r.totalEmployerContributions = withheldBy true r.deductionLines
  net : r.netPay = r.grossPay - r.totalDeductions
  earnings_onGrid : ∀ l ∈ r.earningLines, OnGrid 2 l.amount
  deductions_onGrid : ∀ l ∈ r.deductionLines, OnGrid 2 l.amount

/-- **The pay of an employee, as the engine works it out from the tables.** -/
structure PaysEmployee (db : Db) (payrollPeriodId : ℕ) (period : PayrollPeriod)
    (policy : Option OvertimePolicy) (employeeId : ℕ) (r : PayrollEmployeeResult) : Prop where
  of_period : r.payrollPeriodId = payrollPeriodId
  of_employee : r.employeeId = employeeId
  draft : r.status = .draft
  at_store : r.storeId = period.storeId
  adds : r.Adds
  regular_hours : r.regularHours = hoursAt .regular r.earningLines
  overtime_hours : r.overtimeHours = hoursAt .overtime r.earningLines
  earning_lines : r.earningLines
    = (resolveCompensationSegments db employeeId period.periodStart period.periodEnd).flatMap
      fun s => segmentLines policy (daysFrom period.periodStart period.periodEnd)
        (sumAttendanceHours db employeeId period.storeId s.first s.last) s

theorem draftResult_eq_ok {r : PayrollEmployeeResult}
    (h : (draftResult payrollPeriodId period policy configs employeeId).eval db = .ok r) :
    PaysEmployee db payrollPeriodId period policy employeeId r := by
  unfold draftResult at h
  simp only [Reading.eval_bind, Reading.eval_ask, Reading.eval_lift, Reading.eval_query,
    Reading.eval_mapM, Reading.eval_pure, bind_eq_ok, orRaise_eq_ok, Except.ok.injEq] at h
  obtain ⟨-, rfl, hours, hhours, pay, hpay, lastComp, -, assignment, -, rfl⟩ := h
  have hmap := map_of_mapM hhours (g := id) fun _ _ hok => (Except.ok.inj hok).symm
  rw [List.map_id] at hmap
  have hsorted : (resolveCompensationSegments db employeeId period.periodStart
      period.periodEnd).Pairwise fun s t => s.first ≤ t.first := segments_sorted
  obtain ⟨-, -, hadds, hlines⟩ := calculateEmployeePay_eq_some hsorted hpay
  rw [hmap, flatMap_zipIdx_getD fun hours s =>
    segmentLines policy (daysFrom period.periodStart period.periodEnd) hours s] at hlines
  have hgrid : ∀ l ∈ pay.earningLines, OnGrid 2 l.amount := by
    intro l hl
    rw [hlines] at hl
    obtain ⟨s, -, hl⟩ := List.mem_flatMap.mp hl
    exact onGrid_segmentLines hl
  exact ⟨rfl, rfl, rfl, rfl, ⟨hadds.gross, hadds.deductions, hadds.contributions, hadds.net,
    hgrid, hadds.deductions_onGrid⟩, hadds.regular, hadds.overtime, hlines⟩

/-- The results are those of the employees, in their order. -/
theorem draftResults_eq_ok {employeeIds : List ℕ} {previous : Option PayrollEmployeeResult}
    {results : List PayrollEmployeeResult}
    (h : (draftResults payrollPeriodId period policy configs previous employeeIds).eval db
      = .ok results) :
    List.Forall₂ (PaysEmployee db payrollPeriodId period policy) employeeIds results := by
  induction employeeIds generalizing previous results with
  | nil =>
    cases h
    exact .nil
  | cons employeeId employeeIds ih =>
    unfold draftResults at h
    simp only [Reading.eval_bind, Reading.eval_lift, Reading.eval_pure, ↓check_bind_eq_ok,
      bind_eq_ok, Except.ok.injEq] at h
    obtain ⟨r, hr, -, rest, hrest, rfl⟩ := h
    exact .cons (draftResult_eq_ok hr) (ih hrest)

/-- **A calculation gives every employee assigned to the store during the period one
result, in one overtime policy.** -/
theorem calculation_eq_ok {results : List PayrollEmployeeResult}
    (h : (calculation payrollPeriodId period).eval db = .ok results) :
    ∃ policy, resolveOvertimePolicy db period.periodEnd = .ok policy ∧
      List.Forall₂ (PaysEmployee db payrollPeriodId period policy)
        (employeesAssignedToStoreDuring db period.storeId period.periodStart period.periodEnd)
        results := by
  unfold calculation at h
  simp only [Reading.eval_bind, Reading.eval_ask, Reading.eval_query, bind_eq_ok,
    Except.ok.injEq] at h
  obtain ⟨policy, hpolicy, -, rfl, -, rfl, h⟩ := h
  exact ⟨policy, hpolicy, draftResults_eq_ok h⟩

/-- A calculation asks for the store and the range of its period, and for nothing else of it. -/
theorem calculation_congr {period' : PayrollPeriod} (hstore : period'.storeId = period.storeId)
    (hstart : period'.periodStart = period.periodStart)
    (hend : period'.periodEnd = period.periodEnd) :
    calculation payrollPeriodId period' = calculation payrollPeriodId period := by
  have hdraft : ∀ policy configs employeeId,
      draftResult payrollPeriodId period' policy configs employeeId
        = draftResult payrollPeriodId period policy configs employeeId := by
    intro policy configs employeeId
    unfold draftResult
    rw [hstore, hstart, hend]
  have hdrafts : ∀ policy configs previous employeeIds,
      draftResults payrollPeriodId period' policy configs previous employeeIds
        = draftResults payrollPeriodId period policy configs previous employeeIds := by
    intro policy configs previous employeeIds
    induction employeeIds generalizing previous with
    | nil => rfl
    | cons employeeId employeeIds ih => simp only [draftResults, hdraft, ih]
  unfold calculation
  simp only [hstore, hstart, hend, hdrafts]

end GroceryErp
