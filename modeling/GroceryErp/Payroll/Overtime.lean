import GroceryErp.Lib.Thresholds
import GroceryErp.Payroll.Requests
import Mathlib.Data.Int.Interval

/-!
# Overtime

Overtime is what exceeds the threshold of a period.  The loop over the segments of an employee's
pay compares each segment with the whole threshold, so that the hours beyond it are lost where
they are spread over several segments.

## Main definitions

* `segmentHours`, `periodHours` — the hours of a segment, and of the whole period.
* `OvertimePay` — a calculation pays the employee by the hour and with overtime.
* `SplitsSegment` — a segment of one state is two consecutive ones in another.

## Main results

* `OvertimePay.regularHours_eq`, `OvertimePay.overtimeHours_eq` — what the loop adds up.
* `overtime_of_whole_period_iff` — when these are the hours below and beyond the threshold, and
  when a segment can be split without a change.
* `raise_loses_overtime` — a raise in the middle of the month takes the overtime away.

## References

`backend/app/modules/payroll/calculation.py`, `docs/M10_DESIGN.md`.
-/

namespace GroceryErp

open Decimal Effective Outcome Rows Runs Thresholds

variable {db db' : Db} {payrollPeriodId employeeId : ℕ} {period : Row PayrollPeriod}
  {policy : OvertimePolicy} {r r' : PayrollEmployeeResult} {s : CompensationSegment}

/-! ### Hours -/

/-- The hours of the days of a segment. -/
def segmentHours (db : Db) (employeeId storeId : ℕ) (s : CompensationSegment) : ℚ :=
  sumAttendanceHours db employeeId storeId s.first s.last

/-- The hours of the whole period. -/
def periodHours (db : Db) (employeeId : ℕ) (period : PayrollPeriod) : ℚ :=
  sumAttendanceHours db employeeId period.storeId period.periodStart period.periodEnd

/-- The segments of the employee's pay in the period. -/
def segmentsIn (db : Db) (employeeId : ℕ) (period : PayrollPeriod) : List CompensationSegment :=
  resolveCompensationSegments db employeeId period.periodStart period.periodEnd

/-- On every day of the period the employee is paid by the hour, with overtime. -/
def EligibleDuring (db : Db) (employeeId : ℕ) (period : PayrollPeriod) : Prop :=
  ∀ d, period.periodStart ≤ d → d ≤ period.periodEnd → ∃ c, compensationOn db employeeId d = some c ∧
    c.val.payType = .hourly ∧ c.val.overtimeEligible

/-- A calculation of the period pays the employee by the hour, with overtime. -/
structure OvertimePay (db : Db) (payrollPeriodId : ℕ) (period : Row PayrollPeriod)
    (policy : OvertimePolicy) (employeeId : ℕ) (r : PayrollEmployeeResult) : Prop where
  calculated : ∃ drafts, (calculation payrollPeriodId period.val).eval db = .ok drafts ∧ r ∈ drafts
  of_employee : r.employeeId = employeeId
  with_policy : resolveOvertimePolicy db period.val.periodEnd = .ok (some policy)
  eligible : EligibleDuring db employeeId period.val

/-- A shift is not over before it begins. -/
theorem AttendanceRecord.hours_nonneg (r : Row AttendanceRecord) : 0 ≤ r.val.hours := by
  have hmicro : 0 ≤ r.val.microseconds := by
    unfold AttendanceRecord.microseconds
    cases hout : r.val.clockOutAt with
    | none => exact le_rfl
    | some out =>
      have hlater : r.val.clockInAt < out := r.property out hout
      exact Int.sub_nonneg_of_le hlater.le
  unfold AttendanceRecord.hours
  apply div_nonneg
  · exact_mod_cast hmicro
  · norm_num

theorem segmentHours_nonneg (db : Db) (employeeId storeId : ℕ) (s : CompensationSegment) :
    0 ≤ segmentHours db employeeId storeId s := by
  unfold segmentHours
  rw [sumAttendanceHours_eq]
  exact sumWhere_nonneg fun r _ _ => AttendanceRecord.hours_nonneg r

/-- The hours of consecutive days add up; no record belongs to two days. -/
theorem sumAttendanceHours_add {storeId : ℕ} {a m b : Date} (ham : a ≤ m + 1) (hmb : m ≤ b) :
    sumAttendanceHours db employeeId storeId a b
      = sumAttendanceHours db employeeId storeId a m
        + sumAttendanceHours db employeeId storeId (m + 1) b := by
  simp only [sumAttendanceHours_between]
  refine sumWhere_or (fun r _ => ?_) fun r _ hbefore hafter => ?_
  · rw [← and_or_left, and_congr_right_iff]
    intro _
    constructor
    · rintro ⟨ha, hb⟩
      rcases le_or_gt r.val.workDate m with hm | hm
      · exact .inl ⟨ha, hm⟩
      · exact .inr ⟨Int.add_one_le_iff.mpr hm, hb⟩
    · rintro (⟨ha, hm⟩ | ⟨hm, hb⟩)
      · exact ⟨ha, hm.trans hmb⟩
      · exact ⟨ham.trans hm, hb⟩
  · exact absurd (Int.add_one_le_iff.mp hafter.2.1) (not_lt.mpr hbefore.2.2)

/-- The segments of an employee who is paid on every day come to the hours of the period. -/
theorem EligibleDuring.sum_segmentHours (h : EligibleDuring db employeeId period.val) :
    ((segmentsIn db employeeId period.val).map
      (segmentHours db employeeId period.val.storeId)).sum
        = periodHours db employeeId period.val := by
  have hrange : period.val.periodStart ≤ period.val.periodEnd := period.property.valid_range
  have hdisjoint : (segmentsIn db employeeId period.val).Pairwise fun s t =>
      ∀ d, s.Has d → ¬t.Has d := segments_disjoint
  calc ((segmentsIn db employeeId period.val).map
        (segmentHours db employeeId period.val.storeId)).sum
      = ((segmentsIn db employeeId period.val).map fun s => sumWhere (fun r : Row AttendanceRecord =>
          (r.val.employeeId = employeeId ∧ r.val.storeId = period.val.storeId ∧
            r.val.status = .closed) ∧ s.Has r.val.workDate) (·.val.hours) db.hr.attendance).sum := by
        congr 1
        refine List.map_congr_left fun s _ => ?_
        exact sumAttendanceHours_eq db employeeId period.val.storeId s
    _ = sumWhere (fun r => (r.val.employeeId = employeeId ∧ r.val.storeId = period.val.storeId ∧
          r.val.status = .closed) ∧ ∃ s ∈ segmentsIn db employeeId period.val, s.Has r.val.workDate)
          (·.val.hours) db.hr.attendance :=
        sum_sumWhere_segments hdisjoint (fun r : Row AttendanceRecord => r.val.workDate) _ _ _
    -- as every day of the period is in a segment, so is every working day
    _ = periodHours db employeeId period.val := by
        unfold periodHours
        rw [sumAttendanceHours_between]
        refine sumWhere_congr (fun r _ => and_congr_right fun _ => ?_) fun _ _ _ => rfl
        constructor
        · rintro ⟨s, hs, hhas⟩
          obtain ⟨hstart, -, hend⟩ := segment_bounds hrange hs
          exact ⟨hstart.trans hhas.1, hhas.2.trans hend⟩
        · rintro ⟨hstart, hend⟩
          obtain ⟨c, hc, -⟩ := h r.val.workDate hstart hend
          obtain ⟨s, hs, hhas, -⟩ := (exists_segment_iff hstart hend).mpr hc
          exact ⟨s, hs, hhas⟩

/-- Every segment is paid by the hour, with overtime. -/
theorem EligibleDuring.segment (h : EligibleDuring db employeeId period.val)
    (hs : s ∈ segmentsIn db employeeId period.val) :
    s.value.val.payType = .hourly ∧ s.value.val.overtimeEligible := by
  obtain ⟨hstart, hdays, hend⟩ := segment_bounds period.property.valid_range hs
  obtain ⟨c, hc, hpay, heligible⟩ := h s.first hstart (hdays.trans hend)
  have hfirst := (exists_segment_iff hstart (hdays.trans hend)).mp ⟨s, hs, ⟨le_rfl, hdays⟩, rfl⟩
  obtain rfl : s.value = c := Option.some.inj (hfirst.symm.trans hc)
  exact ⟨hpay, heligible⟩

/-! ### What the loop adds up -/

/-- A segment compares its own hours with the threshold. -/
theorem hoursAt_segmentLines_overtime (hpay : s.value.val.payType = .hourly)
    (heligible : s.value.val.overtimeEligible) (days hours : ℚ) :
    hoursAt .regular (segmentLines (some policy) days hours s)
        = min hours policy.thresholdHoursPerPeriod ∧
      hoursAt .overtime (segmentLines (some policy) days hours s)
        = max 0 (hours - policy.thresholdHoursPerPeriod) := by
  simp only [segmentLines, hpay, hourlyLines, heligible, if_true]
  split
  · simp [hoursAt, sumWhere_cons]
  · next hover =>
    have hnone : max 0 (hours - policy.thresholdHoursPerPeriod) = 0 :=
      le_antisymm (not_lt.mp hover) (le_max_left _ _)
    simp [hoursAt, sumWhere_cons, hnone]

/-- The threshold of a policy that is found is positive. -/
theorem resolveOvertimePolicy_pos {asOf : Date}
    (h : resolveOvertimePolicy db asOf = .ok (some policy)) :
    0 < policy.thresholdHoursPerPeriod := by
  have hmem : policy ∈ (db.hr.overtimePolicies.rows.filter fun e => e.Covers asOf).map
      (·.value.val) := by
    rw [scalarOneOrNone_eq_some.mp h]
    exact List.mem_singleton_self policy
  obtain ⟨e, -, rfl⟩ := List.mem_map.mp hmem
  exact e.value.property.threshold_positive

namespace OvertimePay

variable (h : OvertimePay db payrollPeriodId period policy employeeId r)

include h

theorem threshold_pos : 0 < policy.thresholdHoursPerPeriod := resolveOvertimePolicy_pos h.with_policy

theorem pays : PaysEmployee db payrollPeriodId period.val (some policy) employeeId r := by
  obtain ⟨drafts, heval, hr⟩ := h.calculated
  obtain ⟨found, hfound, hpays⟩ := calculation_eq_ok heval
  obtain rfl : some policy = found := Except.ok.inj (h.with_policy.symm.trans hfound)
  obtain ⟨k, hk, rfl⟩ := List.getElem_of_mem hr
  have hpay := hpays.get (by rw [hpays.length_eq]; exact hk) hk
  rw [← hpay.of_employee] at hpay
  exact h.of_employee ▸ hpay

/-- **The loop counts as regular, of each segment, what is below the threshold.** -/
theorem regularHours_eq : r.regularHours = ((segmentsIn db employeeId period.val).map fun s =>
    min (segmentHours db employeeId period.val.storeId s) policy.thresholdHoursPerPeriod).sum := by
  rw [h.pays.regular_hours, h.pays.earning_lines, hoursAt, sumWhere_flatMap]
  congr 1
  refine List.map_congr_left fun s hs => ?_
  obtain ⟨hpay, heligible⟩ := h.eligible.segment hs
  exact (hoursAt_segmentLines_overtime hpay heligible _ _).1

/-- **As overtime it counts what is left.** -/
theorem overtimeHours_eq :
    r.overtimeHours = periodHours db employeeId period.val - r.regularHours := by
  rw [h.regularHours_eq, ← h.eligible.sum_segmentHours,
    ← sum_map_excess _ _ policy.thresholdHoursPerPeriod, h.pays.overtime_hours,
    h.pays.earning_lines, hoursAt, sumWhere_flatMap]
  congr 1
  refine List.map_congr_left fun s hs => ?_
  obtain ⟨hpay, heligible⟩ := h.eligible.segment hs
  exact (hoursAt_segmentLines_overtime hpay heligible _ _).2

/-- The hours are those below and beyond the threshold just where they do not exceed it, or are
all of one segment. -/
theorem of_whole_period_iff :
    (r.regularHours = min (periodHours db employeeId period.val) policy.thresholdHoursPerPeriod ∧
      r.overtimeHours
        = max 0 (periodHours db employeeId period.val - policy.thresholdHoursPerPeriod)) ↔
      periodHours db employeeId period.val ≤ policy.thresholdHoursPerPeriod ∨
        ∃ s ∈ segmentsIn db employeeId period.val,
          segmentHours db employeeId period.val.storeId s = periodHours db employeeId period.val := by
  have hiff := sum_map_min_eq_iff (l := segmentsIn db employeeId period.val)
    (f := segmentHours db employeeId period.val.storeId)
    (fun s _ => segmentHours_nonneg db employeeId period.val.storeId s) h.threshold_pos
  rw [h.eligible.sum_segmentHours, ← h.regularHours_eq] at hiff
  rw [← hiff, h.overtimeHours_eq, excess_eq]
  constructor
  · rintro ⟨hregular, -⟩
    exact hregular
  · intro hregular
    exact ⟨hregular, by rw [hregular]⟩

end OvertimePay

/-! ### Segments that are split -/

/-- The segment `s` of one state is two consecutive ones in the other, whose terms may differ;
everything else of the employee's pay, and all shifts, are the same. -/
structure SplitsSegment (db db' : Db) (employeeId : ℕ) (period : PayrollPeriod)
    (s s₁ s₂ : CompensationSegment) : Prop where
  attendance : db'.hr.attendance = db.hr.attendance
  segments : ∃ before after, segmentsIn db employeeId period = before ++ s :: after ∧
    segmentsIn db' employeeId period = before ++ s₁ :: s₂ :: after
  first : s₁.first = s.first
  next : s₂.first = s₁.last + 1
  last : s₂.last = s.last

section Splits

variable {s₁ s₂ : CompensationSegment}

/-- The hours of a segment that is split are those of its parts. -/
theorem SplitsSegment.hours (h : SplitsSegment db db' employeeId period.val s s₁ s₂) (storeId : ℕ) :
    segmentHours db employeeId storeId s
      = segmentHours db employeeId storeId s₁ + segmentHours db employeeId storeId s₂ := by
  obtain ⟨before, after, -, hsplit⟩ := h.segments
  have hmem₁ : s₁ ∈ segmentsIn db' employeeId period.val := by simp [hsplit]
  have hmem₂ : s₂ ∈ segmentsIn db' employeeId period.val := by simp [hsplit]
  have hdays₁ := (segment_bounds period.property.valid_range hmem₁).2.1
  have hdays₂ := (segment_bounds period.property.valid_range hmem₂).2.1
  unfold segmentHours
  rw [← h.first, ← h.last, h.next]
  rw [h.next] at hdays₂
  exact sumAttendanceHours_add (hdays₁.trans (Int.le_add_one le_rfl))
    ((Int.le_add_one le_rfl).trans hdays₂)

/-- The split changes nothing just where the segment does not exceed the threshold, or one part
has no hours. -/
theorem OvertimePay.split_iff (h : OvertimePay db payrollPeriodId period policy employeeId r)
    (h' : OvertimePay db' payrollPeriodId period policy employeeId r')
    (hsplits : SplitsSegment db db' employeeId period.val s s₁ s₂) :
    (r'.regularHours = r.regularHours ∧ r'.overtimeHours = r.overtimeHours) ↔
      segmentHours db employeeId period.val.storeId s ≤ policy.thresholdHoursPerPeriod ∨
        segmentHours db employeeId period.val.storeId s₁ = 0 ∨
        segmentHours db employeeId period.val.storeId s₂ = 0 := by
  -- the two histories differ in the one segment, and the attendance is the same
  obtain ⟨before, after, hsegs, hsegs'⟩ := hsplits.segments
  have hsame : ∀ t, segmentHours db' employeeId period.val.storeId t
      = segmentHours db employeeId period.val.storeId t := by
    intro t
    unfold segmentHours sumAttendanceHours
    rw [hsplits.attendance]
  have htotal : periodHours db' employeeId period.val = periodHours db employeeId period.val := by
    unfold periodHours sumAttendanceHours
    rw [hsplits.attendance]
  have hregular : r'.regularHours = r.regularHours ↔
      min (segmentHours db employeeId period.val.storeId s₁) policy.thresholdHoursPerPeriod
          + min (segmentHours db employeeId period.val.storeId s₂) policy.thresholdHoursPerPeriod
        = min (segmentHours db employeeId period.val.storeId s) policy.thresholdHoursPerPeriod := by
    rw [h.regularHours_eq, h'.regularHours_eq, hsegs, hsegs']
    simp only [hsame, List.map_append, List.map_cons, List.sum_append, List.sum_cons]
    constructor
    · intro heq
      linarith
    · intro heq
      linarith
  -- all hours stay, so the overtime follows from the regular hours
  have hovertime : r'.regularHours = r.regularHours → r'.overtimeHours = r.overtimeHours := by
    intro heq
    rw [h.overtimeHours_eq, h'.overtimeHours_eq, heq, htotal]
  rw [and_iff_left_of_imp hovertime, hregular, hsplits.hours]
  exact min_add_min_eq_iff (segmentHours_nonneg _ _ _ _) (segmentHours_nonneg _ _ _ _)
    h.threshold_pos

end Splits

/-- Beyond ten hours a period half as much again is paid. -/
def payOvertime : WorkforceRequest :=
  .configure {
    overtimePolicies := ⟨[⟨(), ⟨⟨10, 3 / 2⟩, by decide +kernel⟩, 0, none⟩], by decide +kernel⟩
    deductionTypes := []
    deductionRates := ∅ }

/-- The first employee is paid by the hour, with overtime, from a day on. -/
def payFrom (rate : ℚ) (effectiveFrom : Date) : WorkforceRequest :=
  .changeCompensation {
    employeeId := 0, effectiveFrom, compensation := ⟨.hourly, rate, true, "USD"⟩ }

/-- The employee works for eight hours on day 5, and on day 20. -/
def workTwice : List WorkforceRequest :=
  [beginShift 0 5, endShift 0 5, beginShift 0 20, endShift 1 20]

def steadyPay : Db :=
  value (WorkforceRequest.execAll newShops ([hireFor 0, payOvertime, payFrom 20 0] ++ workTwice))
    (by decide +kernel)

/-- In between there is a raise. -/
def raisedPay : Db :=
  value (WorkforceRequest.execAll newShops
    ([hireFor 0, payOvertime, payFrom 20 0, payFrom 22 16] ++ workTwice)) (by decide +kernel)

def firstMonth : Row PayrollPeriod :=
  ⟨{ storeId := 0, periodStart := 1, periodEnd := 30, payDate := 30 }, by decide +kernel⟩

/-- The days of the month, one by one. -/
theorem eligibleDuring_firstMonth {db : Db}
    (h : ∀ n : ℕ, n < 30 → (compensationOn db 0 (n + 1)).any fun c =>
      c.val.payType = .hourly ∧ c.val.overtimeEligible) : EligibleDuring db 0 firstMonth.val := by
  intro (d : ℤ) hstart hend
  have hfirst : (1 : ℤ) ≤ d := hstart
  have hlast : d ≤ (30 : ℤ) := hend
  obtain ⟨n, rfl⟩ : ∃ n : ℕ, d = n + 1 := ⟨(d - 1).toNat, by omega⟩
  obtain ⟨c, hc, hterms⟩ := (Option.any_eq_true ..).mp (h n (by omega))
  exact ⟨c, hc, of_decide_eq_true hterms⟩

/-- The one result that a calculation of the month gives. -/
theorem overtimePay_firstMonth {db : Db} {drafts : List PayrollEmployeeResult} {regular overtime : ℚ}
    (heval : (calculation 0 firstMonth.val).eval db = .ok drafts)
    (hone : drafts.map (fun r => (r.employeeId, r.regularHours, r.overtimeHours))
      = [(0, regular, overtime)])
    (hpolicy : resolveOvertimePolicy db 30 = .ok (some ⟨10, 3 / 2⟩))
    (heligible : EligibleDuring db 0 firstMonth.val) :
    ∃ r, OvertimePay db 0 firstMonth ⟨10, 3 / 2⟩ 0 r ∧ r.regularHours = regular ∧
      r.overtimeHours = overtime := by
  obtain ⟨r, rfl, hr⟩ := List.map_eq_singleton_iff.mp hone
  simp only [Prod.mk.injEq] at hr
  exact ⟨r, ⟨⟨[r], heval, List.mem_singleton_self r⟩, hr.1, hpolicy, heligible⟩, hr.2⟩

theorem overtimePay_steady : ∃ r, OvertimePay steadyPay 0 firstMonth ⟨10, 3 / 2⟩ 0 r ∧
    r.regularHours = 10 ∧ r.overtimeHours = 6 :=
  overtimePay_firstMonth (eq_ok_value _ (by decide +kernel)) (by decide +kernel) (by decide +kernel)
    (eligibleDuring_firstMonth (by decide +kernel))

theorem overtimePay_raised : ∃ r, OvertimePay raisedPay 0 firstMonth ⟨10, 3 / 2⟩ 0 r ∧
    r.regularHours = 16 ∧ r.overtimeHours = 0 :=
  overtimePay_firstMonth (eq_ok_value _ (by decide +kernel)) (by decide +kernel) (by decide +kernel)
    (eligibleDuring_firstMonth (by decide +kernel))

end GroceryErp
