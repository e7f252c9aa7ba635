import GroceryErp.Payroll.Salaries

/-!
# Hours

The hours of a period are those of the closed shifts at its store, of the employees with an
assignment there; shifts may be worked at any store.  Nothing keeps two periods of a store
apart, and nothing asks for open shifts.

## Main definitions

* `Counts`, `PaysHours` — the shifts that a calculation sums up, and pays by the hour.
* `PaidIn`, `CountedIn` — those that the last calculation of a period has.
* `CalculatesApart`, `CountsAll` — requests that pay nothing twice, and leave nothing out.

## Main results

* `hoursPaid_eq` — a calculation pays the hours of the shifts it is to pay.
* `hours_conserved` — when these are all the hours worked at the store.
* `closed_shift_paid_once` — when no shift is paid by two periods.
* `posted_periods_count_all` — when a posted period has counted every shift.
-/

namespace GroceryErp

open Decimal Effective Outcome Rows Runs

variable {db₀ db db' : Db} {employeeId : ℕ}

/-! ### The hours of a calculation -/

/-- The shift is closed, at the store and on a day of the period. -/
def AttendanceRecord.ClosedIn (r : AttendanceRecord) (p : PayrollPeriod) : Prop :=
  r.status = .closed ∧ r.storeId = p.storeId ∧ p.Has r.workDate

instance AttendanceRecord.decidableClosedIn (r : AttendanceRecord) (p : PayrollPeriod) :
    Decidable (r.ClosedIn p) := inferInstanceAs (Decidable (_ ∧ _))

/-- The employee is paid by the hour on the day of the shift. -/
def AttendanceRecord.Hourly (db : Db) (r : AttendanceRecord) : Prop :=
  payTypeOn db r.employeeId r.workDate = some .hourly

instance AttendanceRecord.decidableHourly (db : Db) (r : AttendanceRecord) :
    Decidable (r.Hourly db) := inferInstanceAs (Decidable (_ = _))

/-- A calculation of the period sums the shift up. -/
def Counts (db : Db) (p : PayrollPeriod) (r : AttendanceRecord) : Prop :=
  r.ClosedIn p ∧ AssignedDuring db r.employeeId p.storeId p.periodStart p.periodEnd

instance Counts.decidable (db : Db) (p : PayrollPeriod) (r : AttendanceRecord) :
    Decidable (Counts db p r) := inferInstanceAs (Decidable (_ ∧ _))

/-- A calculation of the period pays the hours of the shift. -/
def PaysHours (db : Db) (p : PayrollPeriod) (r : AttendanceRecord) : Prop :=
  Counts db p r ∧ r.Hourly db

instance PaysHours.decidable (db : Db) (p : PayrollPeriod) (r : AttendanceRecord) :
    Decidable (PaysHours db p r) := inferInstanceAs (Decidable (_ ∧ _))

/-- The hours that a result pays, before its columns round them. -/
def hoursPaid (r : PayrollEmployeeResult) : ℚ := r.regularHours + r.overtimeHours

/-- A segment pays its hours where it is paid by the hour, and none else. -/
theorem hoursAt_segmentLines (policy : Option OvertimePolicy) (days hours : ℚ)
    (s : CompensationSegment) :
    hoursAt .regular (segmentLines policy days hours s)
        + hoursAt .overtime (segmentLines policy days hours s)
      = if s.value.val.payType = .hourly then hours else 0 := by
  cases hpay : s.value.val.payType with
  | salary => simp [segmentLines_salary hpay, hoursAt]
  | hourly =>
    simp only [segmentLines, hpay, if_true, hourlyLines]
    split
    · simp [hoursAt]
    · next policy _ =>
      -- up to the threshold the hours are regular, and overtime beyond
      by_cases hover : 0 < max 0 (hours - policy.thresholdHoursPerPeriod)
      · have hpos : 0 < hours - policy.thresholdHoursPerPeriod := by
          rcases lt_max_iff.mp hover with h | h
          · exact absurd h (lt_irrefl 0)
          · exact h
        have hle : policy.thresholdHoursPerPeriod ≤ hours := by linarith
        simp [hoursAt, sumWhere_cons, hpos, max_eq_right hpos.le, min_eq_right hle]
      · have hle : hours ≤ policy.thresholdHoursPerPeriod := by
          by_contra hlt
          exact hover (lt_max_of_lt_right (by linarith [not_le.mp hlt]))
        simp [hoursAt, hover, min_eq_left hle]

/-- **A result pays the hours of the employee's shifts at the store**, on the days with pay by
the hour. -/
theorem PaysEmployee.hoursPaid {i : ℕ} {period : PayrollPeriod} {policy : Option OvertimePolicy}
    {r : PayrollEmployeeResult} (h : PaysEmployee db i period policy employeeId r)
    (hrange : period.periodStart ≤ period.periodEnd) :
    hoursPaid r = sumWhere (fun r => r.val.employeeId = employeeId ∧ r.val.ClosedIn period ∧
      r.val.Hourly db) (·.val.hours) db.hr.attendance := by
  let segs := resolveCompensationSegments db employeeId period.periodStart period.periodEnd
  let hourly := segs.filter fun s => s.value.val.payType = .hourly
  have hdisjoint : hourly.Pairwise fun s t => ∀ d, s.Has d → ¬t.Has d :=
    segments_disjoint.sublist List.filter_sublist
  calc GroceryErp.hoursPaid r
      = (segs.map fun s => if s.value.val.payType = .hourly
          then sumAttendanceHours db employeeId period.storeId s.first s.last else 0).sum := by
        unfold GroceryErp.hoursPaid
        rw [h.regular_hours, h.overtime_hours, h.earning_lines]
        unfold hoursAt
        rw [sumWhere_flatMap, sumWhere_flatMap, ← List.sum_map_add]
        congr 1
        apply List.map_congr_left
        intro s _
        exact hoursAt_segmentLines policy _ _ s
    _ = (hourly.map fun s => sumWhere (fun r : Row AttendanceRecord =>
          (r.val.employeeId = employeeId ∧ r.val.storeId = period.storeId ∧
            r.val.status = .closed) ∧ s.Has r.val.workDate) (·.val.hours) db.hr.attendance).sum := by
        rw [← sumWhere_eq_sum_map]
        unfold sumWhere
        congr 1
        apply List.map_congr_left
        intro s _
        exact sumAttendanceHours_eq db employeeId period.storeId s
    _ = sumWhere (fun r => (r.val.employeeId = employeeId ∧ r.val.storeId = period.storeId ∧
          r.val.status = .closed) ∧ ∃ s ∈ hourly, s.Has r.val.workDate)
          (·.val.hours) db.hr.attendance :=
        sum_sumWhere_segments hdisjoint (fun r : Row AttendanceRecord => r.val.workDate) _ _ _
    _ = _ := by
        apply sumWhere_congr
        -- a working day is in an hourly segment just when it is in the period and paid by the hour
        · intro r _
          have hday : (∃ s ∈ hourly, s.Has r.val.workDate) ↔ period.Has r.val.workDate ∧
              payTypeOn db employeeId r.val.workDate = some .hourly := by
            simp only [hourly, List.mem_filter, decide_eq_true_eq]
            constructor
            · rintro ⟨s, ⟨hs, hpay⟩, hhas⟩
              obtain ⟨hstart, -, hend⟩ := segment_bounds hrange hs
              have hd : period.Has r.val.workDate := ⟨hstart.trans hhas.1, hhas.2.trans hend⟩
              exact ⟨hd, (payTypeOn_eq_some_iff hd.1 hd.2).mpr ⟨s, hs, hhas, hpay⟩⟩
            · rintro ⟨hd, hpay⟩
              obtain ⟨s, hs, hhas, hpay⟩ := (payTypeOn_eq_some_iff hd.1 hd.2).mp hpay
              exact ⟨s, ⟨hs, hpay⟩, hhas⟩
          rw [hday]
          unfold AttendanceRecord.ClosedIn AttendanceRecord.Hourly
          constructor
          · rintro ⟨⟨rfl, hstore, hclosed⟩, hd, hpay⟩
            exact ⟨rfl, ⟨hclosed, hstore, hd⟩, hpay⟩
          · rintro ⟨rfl, ⟨hclosed, hstore, hd⟩, hpay⟩
            exact ⟨⟨rfl, hstore, hclosed⟩, hd, hpay⟩
        -- every record that is counted counts with its own hours
        · intro _ _ _
          rfl

/-- **A calculation pays the hours of the shifts that it is to pay**, and no others. -/
theorem hoursPaid_eq {i : ℕ} {period : PayrollPeriod} {drafts : List PayrollEmployeeResult}
    (hrange : period.periodStart ≤ period.periodEnd)
    (h : (calculation i period).eval db = .ok drafts) :
    (drafts.map hoursPaid).sum
      = sumWhere (fun r => PaysHours db period r.val) (·.val.hours) db.hr.attendance := by
  obtain ⟨policy, -, hpays⟩ := calculation_eq_ok h
  let ids := employeesAssignedToStoreDuring db period.storeId period.periodStart period.periodEnd
  have hmap : ∀ {ids drafts}, List.Forall₂ (PaysEmployee db i period policy) ids drafts →
      drafts.map hoursPaid = ids.map fun id => sumWhere (fun r : Row AttendanceRecord =>
        r.val.employeeId = id ∧ r.val.ClosedIn period ∧ r.val.Hourly db) (·.val.hours)
        db.hr.attendance := by
    intro ids drafts hpays
    induction hpays with
    | nil => rfl
    | cons hpay _ ih => rw [List.map_cons, List.map_cons, ih, hpay.hoursPaid hrange]
  calc (drafts.map hoursPaid).sum
      = (ids.map fun id => sumWhere (fun r : Row AttendanceRecord => r.val.employeeId = id ∧
          r.val.ClosedIn period ∧ r.val.Hourly db) (·.val.hours) db.hr.attendance).sum := by
        rw [hmap hpays]
    _ = sumWhere (fun r => r.val.employeeId ∈ ids ∧ r.val.ClosedIn period ∧ r.val.Hourly db)
          (·.val.hours) db.hr.attendance := sum_map_sumWhere_key (nodup_distinct _) _
    _ = sumWhere (fun r => PaysHours db period r.val) (·.val.hours) db.hr.attendance := by
        apply sumWhere_congr
        · intro r _
          unfold PaysHours Counts AssignedDuring
          tauto
        · intro _ _ _
          rfl

/-! ### Shifts that are worked -/

/-- An open shift has no end yet, and a closed one has. -/
def ShiftsInOrder (db : Db) : Prop :=
  ∀ r ∈ db.hr.attendance, (r.val.status = .opened → r.val.clockOutAt = none) ∧
    (r.val.status = .closed → r.val.clockOutAt ≠ none)

theorem ShiftsInOrder.exec {r : WorkforceRequest} (h : ShiftsInOrder db)
    (hdone : r.exec db = .ok db') : ShiftsInOrder db' := by
  cases exec_attendanceStep hdone with
  | aside same =>
    unfold ShiftsInOrder
    rw [same]
    exact h
  | clockedIn value =>
    intro s hs
    rcases List.mem_append.mp hs with hs | hs
    · exact h s hs
    · rw [List.mem_singleton.mp hs, value]
      exact ⟨fun _ => rfl, nofun⟩
  | clockedOut row opened value =>
    apply forall_mem_set h
    rw [value]
    exact ⟨nofun, fun _ => Option.some_ne_none _⟩
  | @corrected req original voided record workDate row live day voided_value value =>
    intro s hs
    rcases List.mem_append.mp hs with hs | hs
    · refine forall_mem_set h ?_ s hs
      rw [voided_value]
      exact ⟨nofun, nofun⟩
    · rw [List.mem_singleton.mp hs, value]
      cases hout : req.newClockOutAt with
      | none => simp [CorrectAttendance.record, hout]
      | some out => simp [CorrectAttendance.record, hout]

theorem shiftsInOrder_of_reaches {ok : Db → WorkforceRequest → Prop} (start : ShiftsInOrder db₀)
    (run : Reaches WorkforceRequest.exec ok db₀ db) : ShiftsInOrder db :=
  run.invariant start fun _ _ _ hdb _ hdone => hdb.exec hdone

/-- A closed shift has hours, as the clock goes on between its two ends. -/
theorem ShiftsInOrder.hours_pos (h : ShiftsInOrder db) {r : Row AttendanceRecord}
    (hr : r ∈ db.hr.attendance) (hclosed : r.val.status = .closed) : 0 < r.val.hours := by
  obtain ⟨out, hout⟩ := Option.ne_none_iff_exists'.mp ((h r hr).2 hclosed)
  have hlater : r.val.clockInAt < out := r.property out hout
  have hpos : 0 < r.val.microseconds := by
    unfold AttendanceRecord.microseconds
    rw [hout]
    exact Int.sub_pos_of_lt hlater
  unfold AttendanceRecord.hours
  apply div_pos
  · exact_mod_cast hpos
  · norm_num

/-- The hours worked at the store in the days of the period, by employees who are paid by the
hour on that day. -/
def storeHours (db : Db) (p : PayrollPeriod) : ℚ :=
  sumWhere (fun r => r.val.ClosedIn p ∧ r.val.Hourly db) (·.val.hours) db.hr.attendance

/-- **A period pays all hours worked at its store** exactly where every shift is one of an
employee with an assignment there. -/
theorem hours_conserved {req : CalculatePayrollPeriod} {p : Row PayrollPeriod}
    (start : ShiftsInOrder db₀)
    (run : Reaches WorkforceRequest.exec (fun _ _ => True) db₀ db)
    (hrow : db.payroll.periods[req.payrollPeriodId]? = some p) (hnew : ¬req.Replayed db)
    (hdone : calculatePayrollPeriod db req = .ok db') :
    ∃ drafts, (calculation req.payrollPeriodId p.val).eval db = .ok drafts ∧
      draftsOf db' req.payrollPeriodId = drafts.map PayrollEmployeeResult.stored ∧
      ((drafts.map hoursPaid).sum = storeHours db p.val ↔
        ∀ r ∈ db.hr.attendance, r.val.ClosedIn p.val → r.val.Hourly db →
          AssignedDuring db r.val.employeeId p.val.storeId p.val.periodStart p.val.periodEnd) := by
  have hshifts := shiftsInOrder_of_reaches start run
  rcases calculatePayrollPeriod_ok hdone with ⟨hreplayed, -⟩ | ⟨-, period, drafts, heval, done⟩
  · exact absurd hreplayed hnew
  · obtain rfl := Option.some.inj (hrow.symm.trans done.row)
    refine ⟨drafts, heval, done.draftsOf (drafts_of_eval heval), ?_⟩
    -- what is not paid are the shifts of the others
    have hsplit : storeHours db p.val = (drafts.map hoursPaid).sum
        + sumWhere (fun r => (r.val.ClosedIn p.val ∧ r.val.Hourly db) ∧
            ¬AssignedDuring db r.val.employeeId p.val.storeId p.val.periodStart p.val.periodEnd)
          (·.val.hours) db.hr.attendance := by
      rw [hoursPaid_eq p.property.valid_range heval]
      apply sumWhere_or
      · intro r _
        unfold PaysHours Counts
        tauto
      · intro r _ hpaid hother
        exact hother.2 hpaid.1.2
    have hzero := sumWhere_eq_zero_iff_of_pos
      (p := fun r : Row AttendanceRecord => (r.val.ClosedIn p.val ∧ r.val.Hourly db) ∧
        ¬AssignedDuring db r.val.employeeId p.val.storeId p.val.periodStart p.val.periodEnd)
      (f := (·.val.hours)) fun r hr hunpaid => hshifts.hours_pos hr hunpaid.1.1.1
    rw [hsplit, left_eq_add, hzero]
    constructor
    · intro hnone r hr hclosed hhourly
      by_contra hother
      exact hnone r hr ⟨⟨hclosed, hhourly⟩, hother⟩
    · rintro hall r hr ⟨⟨hclosed, hhourly⟩, hother⟩
      exact hother (hall r hr hclosed hhourly)

theorem newShops_shiftsInOrder : ShiftsInOrder newShops :=
  fun _ hr => absurd hr List.not_mem_nil

/-- A shift has been worked at the employee's store, and its month is open. -/
def workedHere : Db :=
  value (WorkforceRequest.execAll newShops ([hireFor 0, payByTheHour, beginShift 0 5, endShift 0 5]
    ++ openedFor 0 0 1 30)) (by decide +kernel)

/-- The month is calculated over the hours as they are now. -/
def paidHere : Db := value ((calculateAt 0 0).exec workedHere) (by decide +kernel)

theorem hours_conserved_here :
    ∃ drafts : List PayrollEmployeeResult,
      draftsOf paidHere 0 = drafts.map PayrollEmployeeResult.stored ∧
      ∀ p ∈ workedHere.payroll.periods, (drafts.map hoursPaid).sum = storeHours workedHere p.val := by
  have hperiod : ∃ p, workedHere.payroll.periods = [p] :=
    List.length_eq_one_iff.mp (by decide +kernel)
  obtain ⟨p, hp⟩ := hperiod
  have hrow : workedHere.payroll.periods[0]? = some p := by rw [hp]; rfl
  have run : Reaches WorkforceRequest.exec (fun _ _ => True) newShops workedHere :=
    reaches_of_foldlM (eq_ok_value _ _)
  have hassigned : ∀ q ∈ workedHere.payroll.periods, ∀ r ∈ workedHere.hr.attendance,
      AssignedDuring workedHere r.val.employeeId q.val.storeId q.val.periodStart q.val.periodEnd := by
    decide +kernel
  obtain ⟨drafts, -, hdrafts, hiff⟩ := @hours_conserved newShops workedHere paidHere
    ⟨⟨0, some 0, none⟩, none, 0⟩ p newShops_shiftsInOrder run hrow (by decide) (eq_ok_value _ _)
  have hmem : p ∈ workedHere.payroll.periods := mem_of_row hrow
  refine ⟨drafts, hdrafts, fun q hq => ?_⟩
  rw [hp, List.mem_singleton] at hq
  rw [hq]
  exact hiff.mpr fun r hr _ _ => hassigned p hmem r hr

/-- The employee of the first store works a shift in the second, and both calculate. -/
def workedThere : Db :=
  value (WorkforceRequest.execAll newShops ([hireFor 0, payByTheHour, beginShift 1 5, endShift 0 5]
    ++ openedFor 0 0 1 30 ++ openedFor 1 1 1 30 ++ [calculateAt 0 0, calculateAt 1 0]))
    (by decide +kernel)

/-- **A shift in another store is paid by none**: eight hours are worked in the second store,
and neither period has any. -/
theorem hours_lost_elsewhere :
    Reaches WorkforceRequest.exec (fun _ _ => True) newShops workedThere ∧
      workedThere.payroll.periods.map (fun p => (p.val.status, storeHours workedThere p.val))
        = [(.calculated, 0), (.calculated, 8)] ∧
      (draftsOf workedThere 0).map hoursPaid = [0] ∧ draftsOf workedThere 1 = [] :=
  ⟨reaches_of_foldlM (eq_ok_value _ _), by decide +kernel, by decide +kernel, by decide +kernel⟩

/-! ### One shift in two periods -/

/-- The last calculation of the period, which is live, has paid the hours of the shift. -/
def PaidIn (t : Traced) (i k : ℕ) : Prop :=
  ∃ p ∈ t.db.payroll.periods[i]?, Live t.db i p.val ∧ ∃ db₀ ∈ t.source i,
    ∃ r ∈ db₀.hr.attendance[k]?, PaysHours db₀ p.val r.val

instance PaidIn.decidable (t : Traced) (i k : ℕ) : Decidable (PaidIn t i k) :=
  inferInstanceAs (Decidable (∃ _ ∈ t.db.payroll.periods[i]?, _))

/-- No period is calculated that pays a shift of a day that another live period of the store
has. -/
def CalculatesApart (db : Db) : WorkforceRequest → Prop
  | .calculatePayrollPeriod req =>
    ¬req.Replayed db → ∀ p ∈ db.payroll.periods[req.payrollPeriodId]?,
      ∀ s ∈ db.hr.attendance, PaysHours db p.val s.val →
        ∀ x ∈ withKeys db.payroll.periods, x.1 ≠ req.payrollPeriodId → Live db x.1 x.2.val →
          x.2.val.storeId = p.val.storeId → ¬x.2.val.Has s.val.workDate
  | _ => True

instance CalculatesApart.decidable (db : Db) :
    (r : WorkforceRequest) → Decidable (CalculatesApart db r)
  | .calculatePayrollPeriod req => inferInstanceAs (Decidable (¬req.Replayed db → _))
  | .hireEmployee _ | .changeEmploymentStatus _ | .reassignEmployee _ | .changeCompensation _
  | .clockIn _ | .clockOut _ | .correctAttendance _ | .configure _ | .createPayrollPeriod _
  | .openPayrollPeriod _ | .approvePayrollPeriod _ | .cancelPayrollPeriod _
  | .postPayrollPeriod _ | .reversePayrollPeriod _ => .isTrue trivial

/-- What is paid stays paid by the periods that keep their results. -/
theorem PaysHours.of_range {p p' : PayrollPeriod} {r : AttendanceRecord} (h : p.SameRange p') :
    PaysHours db p' r ↔ PaysHours db p r := by
  unfold PaysHours Counts AttendanceRecord.ClosedIn
  rw [h.storeId, h.periodStart, h.periodEnd, h.has]

/-- Where a shift that is paid after a request has been paid. -/
theorem PaidIn.before {r : WorkforceRequest} {t t' : Traced} {i k : ℕ} (h : PaidIn t' i k)
    (hdone : Traced.exec r t = .ok t') :
    PaidIn t i k ∨ ∃ req, r = .calculatePayrollPeriod req ∧ ¬req.Replayed t.db ∧
      req.payrollPeriodId = i ∧ ∃ p ∈ t.db.payroll.periods[i]?, ∃ s ∈ t.db.hr.attendance[k]?, PaysHours t.db p.val s.val := by
  obtain ⟨p', hp', ⟨hres, hlive⟩, db₀, hdb₀, s, hs, hpays⟩ := h
  cases Traced.exec_period hdone hp' hres with
  | @calculated req p drafts request effective of_period evaluated done source =>
    obtain rfl := Option.some.inj (hdb₀.symm.trans source)
    subst of_period
    have hrange : p.val.SameRange p'.val := by
      rw [done.row_after hp']
      exact ⟨rfl, rfl, rfl⟩
    exact .inr ⟨req, request, effective, rfl, p, done.row, s, hs,
      (PaysHours.of_range hrange).mp hpays⟩
  | @kept p row had same source =>
    have hexec := (Traced.exec_eq_ok.mp hdone).1
    refine .inl ⟨p, row, ⟨had, fun hreversed => hlive ?_⟩, db₀, source.symm.trans hdb₀, s, hs,
      (PaysHours.of_range same.range).mp hpays⟩
    exact hreversed.since (exec_payrollStep hexec).since

/-- No shift is paid by two periods, each as it was last calculated. -/
def PaidOnce (t : Traced) : Prop := ∀ i j k, PaidIn t i k → PaidIn t j k → i = j

/-- A period that is calculated pays no shift that another has paid. -/
theorem not_paidIn_of_apart {req : CalculatePayrollPeriod} {t : Traced} {j k : ℕ}
    {p : Row PayrollPeriod} {s : Row AttendanceRecord} (ht : TracedInOrder t)
    (hok : CalculatesApart t.db (.calculatePayrollPeriod req)) (hnew : ¬req.Replayed t.db)
    (hp : t.db.payroll.periods[req.payrollPeriodId]? = some p)
    (hs : t.db.hr.attendance[k]? = some s) (hpays : PaysHours t.db p.val s.val)
    (hj : j ≠ req.payrollPeriodId) : ¬PaidIn t j k := by
  rintro ⟨q, hq, hlive, db₁, hdb₁, u, hu, ⟨⟨-, hustore, huday⟩, -⟩, -⟩
  -- the shift is where and when it was
  obtain ⟨db₂, drafts, hsource, -, -, hsince⟩ := ht j q hq hlive.1
  obtain rfl := Option.some.inj (hdb₁.symm.trans hsource)
  obtain ⟨s', hs', hbecomes⟩ := hsince k u hu
  obtain rfl := Option.some.inj (hs.symm.trans hs')
  have hstore : q.val.storeId = p.val.storeId :=
    hustore.symm.trans (hbecomes.storeId.symm.trans hpays.1.1.2.1)
  refine hok hnew p hp s (mem_of_row hs) hpays (j, q) (mem_rowsWhere.mpr ⟨hq, trivial⟩) hj hlive
    hstore ?_
  rw [hbecomes.workDate]
  exact huday

theorem PaidOnce.exec {r : WorkforceRequest} {t t' : Traced} (h : PaidOnce t)
    (ht : TracedInOrder t) (hok : CalculatesApart t.db r) (hdone : Traced.exec r t = .ok t') :
    PaidOnce t' := by
  intro i j k hi hj
  rcases hi.before hdone with hi | ⟨req, rfl, hnew, rfl, p, hp, s, hs, hpays⟩
  · rcases hj.before hdone with hj | ⟨req, rfl, hnew, rfl, p, hp, s, hs, hpays⟩
    · exact h i j k hi hj
    · by_contra hne
      exact not_paidIn_of_apart ht hok hnew hp hs hpays hne hi
  · rcases hj.before hdone with hj | ⟨req', heq, -, rfl, -⟩
    · by_contra hne
      exact not_paidIn_of_apart ht hok hnew hp hs hpays (Ne.symm hne) hj
    · cases heq
      rfl

/-- **No shift is paid by two periods of a run** that calculates no period over a shift it is
to pay on a day that another live period of the store has. -/
theorem closed_shift_paid_once {t : Traced} (start : BeforePayroll db₀)
    (run : Reaches Traced.exec (fun t r => CalculatesApart t.db r) { db := db₀ } t) :
    ∀ i j k, PaidIn t i k → PaidIn t j k → i = j := by
  have hnone : PaidOnce { db := db₀ } := by
    rintro i j k ⟨p, hp, -⟩ -
    rw [start.periods] at hp
    cases hp
  have hboth : TracedInOrder t ∧ PaidOnce t := by
    apply run.invariant ⟨start.tracedInOrder, hnone⟩
    intro s r s' hs hok hdone
    exact ⟨hs.1.exec hdone, hs.2.exec hs.1 hok hdone⟩
  exact hboth.2

/-- Two periods of a store, with days in common or not, after a shift on day 6. -/
def periodsFrom (first second : Date) : List WorkforceRequest :=
  [hireFor 0, payByTheHour, beginShift 0 6, endShift 0 6] ++ openedFor 0 0 first (first + 9)
    ++ openedFor 1 0 second (second + 9) ++ [calculateAt 0 0, calculateAt 1 0]

/-- The second period begins when the first is over. -/
def paidApart : Traced :=
  value ((periodsFrom 1 11).foldlM
    (guarded Traced.exec (fun t r => CalculatesApart t.db r) .assertion) { db := newShops })
    (by decide +kernel)

theorem closed_shift_paid_once_apart : PaidIn paidApart 0 0 ∧ ∀ j, PaidIn paidApart j 0 → 0 = j := by
  have hpaid : PaidIn paidApart 0 0 := by decide +kernel
  exact ⟨hpaid, fun j hj => closed_shift_paid_once newShops_beforePayroll
    (reaches_of_guarded (eq_ok_value _ _)) 0 j 0 hpaid hj⟩

/-- The second period begins before the first is over. -/
def paidOver : Traced :=
  value ((periodsFrom 1 5).foldlM (fun t r => Traced.exec r t) { db := newShops })
    (by decide +kernel)

/-- **Two periods of a store pay the same eight hours.** -/
theorem shift_paid_twice :
    Reaches Traced.exec (fun _ _ => True) { db := newShops } paidOver ∧
      PaidIn paidOver 0 0 ∧ PaidIn paidOver 1 0 ∧
      (draftsOf paidOver.db 0).map hoursPaid = [8] ∧
      (draftsOf paidOver.db 1).map hoursPaid = [8] :=
  ⟨reaches_of_foldlM (eq_ok_value _ _), by decide +kernel, by decide +kernel, by decide +kernel,
    by decide +kernel⟩

/-! ### Shifts that a posted period has not counted -/

/-- The last calculation of the period has counted the shift. -/
def CountedIn (t : Traced) (i : ℕ) (p : PayrollPeriod) (k : ℕ) : Prop :=
  ∃ db₀ ∈ t.source i, ∃ r ∈ db₀.hr.attendance[k]?, Counts db₀ p r.val

instance CountedIn.decidable (t : Traced) (i : ℕ) (p : PayrollPeriod) (k : ℕ) :
    Decidable (CountedIn t i p k) := inferInstanceAs (Decidable (∃ _ ∈ t.source i, _))

/-- No period has been calculated from a range with an open shift of its store. -/
def NoneOpenWhenCalculated (t : Traced) : Prop :=
  ∀ (i : ℕ) (p : Row PayrollPeriod), t.db.payroll.periods[i]? = some p → p.val.status.HasResults →
    ∀ db₀, t.source i = some db₀ → ∀ r ∈ db₀.hr.attendance, r.val.storeId = p.val.storeId →
      p.val.Has r.val.workDate → r.val.status ≠ .opened

/-- A posted period that is not reversed has counted every shift of its store and days that
has an end and is not voided. -/
def PostedCountsAll (t : Traced) : Prop :=
  ∀ (i : ℕ) (p : Row PayrollPeriod), t.db.payroll.periods[i]? = some p → p.val.status = .posted →
    ¬Reversed t.db i → ∀ (k : ℕ) (r : Row AttendanceRecord), t.db.hr.attendance[k]? = some r →
      r.val.status ≠ .voided → r.val.clockOutAt ≠ none → r.val.storeId = p.val.storeId →
      p.val.Has r.val.workDate → CountedIn t i p.val k

/-- A shift of the day may be closed by a transaction that began at `startedAt`: a live
period of the store and day has been calculated before that, and is not approved yet. -/
def VisibleAt (db : Db) (storeId : ℕ) (workDate : Date) (startedAt : Instant) : Prop :=
  ∀ x ∈ withKeys db.payroll.periods, Live db x.1 x.2.val → x.2.val.storeId = storeId →
    x.2.val.Has workDate → x.2.val.status = .calculated ∧ ∀ t ∈ x.2.val.calculatedAt, t < startedAt

instance VisibleAt.decidable (db : Db) (storeId : ℕ) (workDate : Date) (startedAt : Instant) :
    Decidable (VisibleAt db storeId workDate startedAt) := inferInstanceAs (Decidable (∀ _ ∈ _, _))

/-- The days of the live periods that have the day of the new shift have that of the old. -/
def CorrectsWithin (db : Db) (storeId : ℕ) (oldDate newDate : Date) : Prop :=
  ∀ x ∈ withKeys db.payroll.periods, Live db x.1 x.2.val → x.2.val.storeId = storeId →
    x.2.val.Has newDate → x.2.val.Has oldDate

instance CorrectsWithin.decidable (db : Db) (storeId : ℕ) (oldDate newDate : Date) :
    Decidable (CorrectsWithin db storeId oldDate newDate) := inferInstanceAs (Decidable (∀ _ ∈ _, _))

/-- The request leaves no shift out: a calculation finds no open shift, and none of somebody
without an assignment; and a shift that is closed afterwards is one that the approval sees. -/
def CountsAll (db : Db) : WorkforceRequest → Prop
  | .calculatePayrollPeriod req =>
    ¬req.Replayed db → ∀ p ∈ db.payroll.periods[req.payrollPeriodId]?, ∀ r ∈ db.hr.attendance,
      r.val.storeId = p.val.storeId → p.val.Has r.val.workDate → r.val.status ≠ .opened ∧
        (r.val.status = .closed → AssignedDuring db r.val.employeeId p.val.storeId
          p.val.periodStart p.val.periodEnd)
  | .clockOut req =>
    ∀ r ∈ db.hr.attendance[req.attendanceRecordId]?,
      VisibleAt db r.val.storeId r.val.workDate req.startedAt
  | .correctAttendance req =>
    req.newClockOutAt ≠ none → ∀ r ∈ db.hr.attendance[req.attendanceRecordId]?,
      ∀ workDate ∈ (resolveWorkDate (db.hr.storeClocks r.val.storeId) req.newClockInAt).toOption,
        VisibleAt db r.val.storeId workDate req.startedAt ∧
          CorrectsWithin db r.val.storeId r.val.workDate workDate
  | _ => True

instance CountsAll.decidable (db : Db) : (r : WorkforceRequest) → Decidable (CountsAll db r)
  | .calculatePayrollPeriod req => inferInstanceAs (Decidable (¬req.Replayed db → _))
  | .clockOut _ => inferInstanceAs (Decidable (∀ _ ∈ _, _))
  | .correctAttendance req => inferInstanceAs (Decidable (req.newClockOutAt ≠ none → _))
  | .hireEmployee _ | .changeEmploymentStatus _ | .reassignEmployee _ | .changeCompensation _
  | .clockIn _ | .configure _ | .createPayrollPeriod _ | .openPayrollPeriod _
  | .approvePayrollPeriod _ | .cancelPayrollPeriod _ | .postPayrollPeriod _
  | .reversePayrollPeriod _ => .isTrue trivial

/-- A shift of the period has been updated after `calculatedAt`: the closed one itself, or the
voided one that it corrects. -/
def Marked (db : Db) (p : PayrollPeriod) (r : AttendanceRecord) (calculatedAt : Instant) : Prop :=
  (∃ u ∈ r.updatedAt, calculatedAt < u) ∨
    ∃ o ∈ r.correctionOfId, ∃ m ∈ db.hr.attendance[o]?, m.val.status = .voided ∧
      m.val.storeId = p.storeId ∧ p.Has m.val.workDate ∧ ∃ u ∈ m.val.updatedAt, calculatedAt < u

/-- **What is not counted is marked, and the period not approved.** -/
def UncountedMarked (t : Traced) : Prop :=
  ∀ (i : ℕ) (p : Row PayrollPeriod), t.db.payroll.periods[i]? = some p → Live t.db i p.val →
    ∀ (k : ℕ) (r : Row AttendanceRecord), t.db.hr.attendance[k]? = some r →
      r.val.ClosedIn p.val → CountedIn t i p.val k ∨
        (p.val.status = .calculated ∧ ∀ c ∈ p.val.calculatedAt, Marked t.db p.val r.val c)

/-- The approval finds the mark: where a record of the period was touched after the calculation,
`approve_payroll_period` sees it as stale. -/
theorem Marked.stale {p : PayrollPeriod} {r : Row AttendanceRecord} {c : Instant}
    (h : Marked db p r.val c) (hr : r ∈ db.hr.attendance) (hclosed : r.val.ClosedIn p) :
    StaleAttendance db p c := by
  rcases h with ⟨u, hu, hlt⟩ | ⟨o, -, m, hm, -, hstore, hday, u, hu, hlt⟩
  · exact ⟨r, hr, hclosed.2.1, hclosed.2.2.1, hclosed.2.2.2, u, hu, hlt⟩
  · exact ⟨m, List.mem_of_getElem? hm, hstore, hday.1, hday.2, u, hu, hlt⟩

/-- The mark stays: whatever becomes of attendance later, the record still shows that it was touched
after the calculation. -/
theorem Marked.since {p p' : PayrollPeriod} {r : AttendanceRecord} {c : Instant}
    (h : Marked db p r c) (hsince : AttendanceSince db db') (hrange : p.SameRange p') :
    Marked db' p' r c := by
  rcases h with hself | ⟨o, ho, m, hm, hvoided, hstore, hday, hu⟩
  · exact .inl hself
  · obtain ⟨m', hm', hbecomes⟩ := hsince o m hm
    have hsame : m' = m := Subtype.ext (hbecomes.voided hvoided)
    refine .inr ⟨o, ho, m, hsame ▸ hm', hvoided, hstore.trans hrange.storeId.symm, ?_, hu⟩
    exact (hrange.has _).mpr hday

theorem CountedIn.of_range {t t' : Traced} {i k : ℕ} {p p' : PayrollPeriod}
    (h : CountedIn t i p k) (hrange : p.SameRange p') (hsource : t'.source i = t.source i) :
    CountedIn t' i p' k := by
  obtain ⟨db₀, hdb₀, r, hr, hcounts⟩ := h
  refine ⟨db₀, hsource.trans hdb₀, r, hr, ?_⟩
  unfold Counts AttendanceRecord.ClosedIn at hcounts ⊢
  rw [hrange.storeId, hrange.periodStart, hrange.periodEnd, hrange.has]
  exact hcounts

theorem AttendanceRecord.ClosedIn.of_range {p p' : PayrollPeriod} {r : AttendanceRecord}
    (h : p.SameRange p') : r.ClosedIn p' ↔ r.ClosedIn p := by
  unfold AttendanceRecord.ClosedIn
  rw [h.storeId, h.has]

/-- A request that leaves the shifts alone counts them all, or keeps the marks. -/
theorem UncountedMarked.aside {r : WorkforceRequest} {t t' : Traced} (h : UncountedMarked t)
    (hok : CountsAll t.db r) (hdone : Traced.exec r t = .ok t')
    (same : t'.db.hr.attendance = t.db.hr.attendance) : UncountedMarked t' := by
  have hexec := (Traced.exec_eq_ok.mp hdone).1
  intro i p' hp' hlive k s hs hclosed
  rw [same] at hs
  cases Traced.exec_period hdone hp' hlive.1 with
  | @calculated req p drafts request effective of_period evaluated done source =>
    subst request of_period
    have hrange : p.val.SameRange p'.val := by
      rw [done.row_after hp']
      exact ⟨rfl, rfl, rfl⟩
    have hthere := (AttendanceRecord.ClosedIn.of_range hrange).mp hclosed
    obtain ⟨-, hassigned⟩ := hok effective p done.row s (mem_of_row hs) hthere.2.1 hthere.2.2
    refine .inl ⟨t.db, source, s, hs, hclosed, ?_⟩
    rw [hrange.storeId, hrange.periodStart, hrange.periodEnd]
    exact hassigned hthere.1
  | @kept p row had kept source =>
    have hthere := (AttendanceRecord.ClosedIn.of_range kept.range).mp hclosed
    have hbefore : Live t.db i p.val :=
      ⟨had, fun hreversed => hlive.2 (hreversed.since (exec_payrollStep hexec).since)⟩
    rcases h i p row hbefore k s hs hthere with hcounted | ⟨hcalculated, hmarked⟩
    · exact .inl (hcounted.of_range kept.range source)
    · rcases kept.status with hstatus | ⟨-, -, c, hc, hfresh⟩ | ⟨happroved, -⟩
      · refine .inr ⟨hstatus.trans hcalculated, fun c hc => ?_⟩
        rw [kept.calculatedAt] at hc
        exact (hmarked c hc).since (.of_eq same) kept.range
      · -- the approval would have found the mark
        exact absurd ((hmarked c hc).stale (mem_of_row hs) hthere) hfresh
      · rw [hcalculated] at happroved
        cases happroved

theorem sources_of_not_isPayroll {r : WorkforceRequest} (h : ¬r.IsPayroll)
    (source : ℕ → Option Db) : r.sources db source = source := by
  cases r with
  | calculatePayrollPeriod _ => exact absurd trivial h
  | _ => rfl

/-- A request that closes a shift marks it in every live period that has its day. -/
theorem UncountedMarked.shift {r : WorkforceRequest} {t t' : Traced} (h : UncountedMarked t)
    (hdone : Traced.exec r t = .ok t') (hpay : ¬r.IsPayroll)
    (hnew : ∀ (k : ℕ) (s : Row AttendanceRecord), t'.db.hr.attendance[k]? = some s →
      s.val.status = .closed → t.db.hr.attendance[k]? = some s ∨
        ∀ x ∈ withKeys t.db.payroll.periods, Live t.db x.1 x.2.val → s.val.ClosedIn x.2.val →
          x.2.val.status = .calculated ∧
            ∀ c ∈ x.2.val.calculatedAt, Marked t'.db x.2.val s.val c) : UncountedMarked t' := by
  obtain ⟨hexec, hsource⟩ := Traced.exec_eq_ok.mp hdone
  have same := exec_aside hexec hpay
  rw [sources_of_not_isPayroll hpay] at hsource
  intro i p hp hlive k s hs hclosed
  rw [same.periods] at hp
  have hbefore : Live t.db i p.val := by
    refine ⟨hlive.1, fun hreversed => hlive.2 ?_⟩
    exact hreversed.since (exec_payrollStep hexec).since
  rcases hnew k s hs hclosed.1 with hold | hmarked
  · rcases h i p hp hbefore k s hold hclosed with hcounted | ⟨hcalculated, hmarked⟩
    · exact .inl (hcounted.of_range (.refl _) (congrFun hsource i))
    · refine .inr ⟨hcalculated, fun c hc => ?_⟩
      exact (hmarked c hc).since (exec_attendanceSince hexec) (.refl _)
  · exact .inr (hmarked (i, p) (mem_rowsWhere.mpr ⟨hp, trivial⟩) hbefore hclosed)

/-- **Every request that leaves no shift out keeps what is not counted marked.** -/
theorem UncountedMarked.exec {r : WorkforceRequest} {t t' : Traced} (h : UncountedMarked t)
    (hok : CountsAll t.db r) (hdone : Traced.exec r t = .ok t') : UncountedMarked t' := by
  have hexec := (Traced.exec_eq_ok.mp hdone).1
  obtain ⟨db', source'⟩ := t'
  cases exec_attendanceStep hexec with
  | aside same => exact h.aside hok hdone same
  -- a record that is opened is not counted by any calculation
  | clockedIn value =>
    apply h.shift hdone not_false
    intro k s hs hclosed
    rcases getElem?_append_singleton_eq_some.mp hs with hs | ⟨-, rfl⟩
    · exact .inl hs
    · rw [value] at hclosed
      cases hclosed
  | @clockedOut req record closed row opened value =>
    apply h.shift hdone not_false
    intro k s hs hclosed
    replace hs := (getElem?_set_of_some row closed k).symm.trans hs
    -- the record that is closed now: periods that cover it are calculated, and earlier than this
    split at hs
    · obtain rfl := Option.some.inj hs
      refine .inr fun x hx hlive hin => ?_
      rw [value] at hin
      obtain ⟨hcalculated, hbefore⟩ := hok record row x hx hlive hin.2.1.symm hin.2.2
      refine ⟨hcalculated, fun c hc => .inl ⟨req.startedAt, ?_, hbefore c hc⟩⟩
      rw [value]
      rfl
    · exact .inl hs
  | @corrected req original voided record workDate row live day voided_value value =>
    apply h.shift hdone not_false
    intro k s hs hclosed
    rcases getElem?_append_singleton_eq_some.mp hs with hs | ⟨-, rfl⟩
    -- the voided record is closed no more
    · replace hs := (getElem?_set_of_some row voided k).symm.trans hs
      split at hs
      · obtain rfl := Option.some.inj hs
        rw [voided_value] at hclosed
        cases hclosed
      · exact .inl hs
    -- the record that takes its place, marked by the voided one wherever a period covers its day
    · refine .inr fun x hx hlive hin => ?_
      rw [value] at hclosed hin
      have hends : req.newClockOutAt ≠ none := by
        intro hnone
        simp [CorrectAttendance.record, hnone] at hclosed
      have hday : workDate ∈ (resolveWorkDate (t.db.hr.storeClocks original.val.storeId)
          req.newClockInAt).toOption := by
        rw [day]
        rfl
      obtain ⟨hvisible, hwithin⟩ := hok hends original row workDate hday
      obtain ⟨hcalculated, hbefore⟩ := hvisible x hx hlive hin.2.1.symm hin.2.2
      refine ⟨hcalculated, fun c hc => .inr ⟨req.attendanceRecordId, ?_, voided, ?_, ?_⟩⟩
      · rw [value]
        rfl
      · refine getElem?_append_singleton_eq_some.mpr (.inl ?_)
        rw [getElem?_set_of_some row, if_pos rfl]
      · rw [voided_value]
        exact ⟨rfl, hin.2.1, hwithin x hx hlive hin.2.1.symm hin.2.2, req.startedAt, rfl,
          hbefore c hc⟩

theorem NoneOpenWhenCalculated.exec {r : WorkforceRequest} {t t' : Traced}
    (h : NoneOpenWhenCalculated t) (hok : CountsAll t.db r) (hdone : Traced.exec r t = .ok t') :
    NoneOpenWhenCalculated t' := by
  intro i p' hp' hres db₀ hdb₀ s hs hstore hday
  cases Traced.exec_period hdone hp' hres with
  | @calculated req p drafts request effective of_period evaluated done source =>
    subst request of_period
    obtain rfl := Option.some.inj (hdb₀.symm.trans source)
    have hrange : p.val.SameRange p'.val := by
      rw [done.row_after hp']
      exact ⟨rfl, rfl, rfl⟩
    exact (hok effective p done.row s hs (hstore.trans hrange.storeId)
      ((hrange.has _).mp hday)).1
  | @kept p row had kept source =>
    exact h i p row had db₀ (source.symm.trans hdb₀) s hs (hstore.trans kept.range.storeId)
      ((kept.range.has _).mp hday)

/-- **No shift with hours escapes a posted period** of a run that leaves no shift out. -/
theorem posted_periods_count_all {t : Traced} (start : BeforePayroll db₀)
    (shifts : ShiftsInOrder db₀)
    (run : Reaches Traced.exec (fun t r => CountsAll t.db r) { db := db₀ } t) :
    NoneOpenWhenCalculated t ∧ PostedCountsAll t := by
  have hall : ShiftsInOrder t.db ∧ NoneOpenWhenCalculated t ∧ UncountedMarked t := by
    have hno : ∀ (i : ℕ) (p : Row PayrollPeriod), db₀.payroll.periods[i]? ≠ some p := by
      simp [start.periods]
    apply run.invariant ⟨shifts, fun i p hp => absurd hp (hno i p),
      fun i p hp => absurd hp (hno i p)⟩
    intro s r s' hs hok hdone
    have hexec := (Traced.exec_eq_ok.mp hdone).1
    exact ⟨hs.1.exec hexec, hs.2.1.exec hok hdone, hs.2.2.exec hok hdone⟩
  obtain ⟨hshifts, hopen, hmarked⟩ := hall
  refine ⟨hopen, fun i p hp hposted hlive k r hr hvoided hout hstore hday => ?_⟩
  have hclosed : r.val.status = .closed := by
    cases hstatus : r.val.status with
    | opened => exact absurd ((hshifts r (mem_of_row hr)).1 hstatus) hout
    | closed => rfl
    | voided => exact absurd hstatus hvoided
  rcases hmarked i p hp ⟨.inr (.inr hposted), hlive⟩ k r hr ⟨hclosed, hstore, hday⟩ with
    hcounted | ⟨hcalculated, -⟩
  · exact hcounted
  · rw [hposted] at hcalculated
    cases hcalculated

/-- A month with one shift is posted; another shift, open or not, is there. -/
def postedWith (shifts : List WorkforceRequest) : List WorkforceRequest :=
  [hireFor 0, payByTheHour, beginShift 0 2, endShift 0 2] ++ shifts ++ openedFor 0 0 1 30
    ++ [calculateAt 0 (atHour 31 8), approveAt 0 (atHour 31 9), postFor 0]

/-- All shifts are over when the month is calculated. -/
def allCounted : Traced :=
  value ((postedWith [beginShift 0 5, endShift 1 5]).foldlM
    (guarded Traced.exec (fun t r => CountsAll t.db r) .assertion) { db := newShops })
    (by decide +kernel)

theorem posted_periods_count_all_month :
    ∃ p, allCounted.db.payroll.periods[0]? = some p ∧ CountedIn allCounted 0 p.val 1 := by
  have run : Reaches Traced.exec (fun t r => CountsAll t.db r) { db := newShops } allCounted :=
    reaches_of_guarded (eq_ok_value _ _)
  obtain ⟨-, hcounts⟩ := posted_periods_count_all newShops_beforePayroll newShops_shiftsInOrder run
  obtain ⟨p, hp⟩ : ∃ p, allCounted.db.payroll.periods[0]? = some p :=
    Option.isSome_iff_exists.mp (by decide +kernel)
  obtain ⟨r, hr⟩ : ∃ r, allCounted.db.hr.attendance[1]? = some r :=
    Option.isSome_iff_exists.mp (by decide +kernel)
  have hfacts : ∀ p ∈ allCounted.db.payroll.periods[0]?, ∀ r ∈ allCounted.db.hr.attendance[1]?,
      p.val.status = .posted ∧ r.val.status ≠ .voided ∧ r.val.clockOutAt ≠ none ∧
        r.val.storeId = p.val.storeId ∧ p.val.Has r.val.workDate := by decide +kernel
  obtain ⟨hposted, hlive, hout, hstore, hday⟩ := hfacts p hp r hr
  exact ⟨p, hp, hcounts 0 p hp hposted (by decide +kernel) 1 r hr hlive hout hstore hday⟩

/-- A shift is open when the month is calculated, and ends once it is posted. -/
def closedLate : Traced :=
  value ((postedWith [beginShift 0 5] ++ [endShift 1 5]).foldlM (fun t r => Traced.exec r t)
    { db := newShops }) (by decide +kernel)

/-- **A month with an open shift is calculated and posted**, and eight hours are never
counted. -/
theorem open_shift_escapes :
    Reaches Traced.exec (fun _ _ => True) { db := newShops } closedLate ∧
      ¬NoneOpenWhenCalculated closedLate ∧ ¬PostedCountsAll closedLate ∧
      closedLate.db.hr.attendance.map (·.val.hours) = [8, 8] := by
  obtain ⟨p, hp⟩ : ∃ p, closedLate.db.payroll.periods[0]? = some p :=
    Option.isSome_iff_exists.mp (by decide +kernel)
  obtain ⟨db, hdb⟩ : ∃ db, closedLate.source 0 = some db :=
    Option.isSome_iff_exists.mp (by decide +kernel)
  obtain ⟨r, hr⟩ : ∃ r, closedLate.db.hr.attendance[1]? = some r :=
    Option.isSome_iff_exists.mp (by decide +kernel)
  refine ⟨reaches_of_foldlM (eq_ok_value _ _), fun hnone => ?_, fun hcounts => ?_,
    by decide +kernel⟩
  · have hopen : ∀ db ∈ closedLate.source 0, ∀ p ∈ closedLate.db.payroll.periods[0]?,
        p.val.status.HasResults ∧ ∃ r ∈ db.hr.attendance, r.val.storeId = p.val.storeId ∧
          p.val.Has r.val.workDate ∧ r.val.status = .opened := by decide +kernel
    obtain ⟨hres, s, hs, hstore, hday, hstatus⟩ := hopen db hdb p hp
    exact hnone 0 p hp hres db hdb s hs hstore hday hstatus
  · have hlate : ∀ p ∈ closedLate.db.payroll.periods[0]?,
        ∀ r ∈ closedLate.db.hr.attendance[1]?, p.val.status = .posted ∧
          r.val.status ≠ .voided ∧ r.val.clockOutAt ≠ none ∧ r.val.storeId = p.val.storeId ∧
          p.val.Has r.val.workDate ∧ ¬CountedIn closedLate 0 p.val 1 := by decide +kernel
    obtain ⟨hposted, hlive, hout, hstore, hday, huncounted⟩ := hlate p hp r hr
    exact huncounted
      (hcounts 0 p hp hposted (by decide +kernel) 1 r hr hlive hout hstore hday)

end GroceryErp
