import GroceryErp.Payroll.Traces

/-!
# Salaries

A salary is paid for the days of the compensation, by every store the employee is assigned
to at some time of the period: neither the days of the assignment nor the status of the
employee is asked for.

## Main definitions

* `salaryOf`, `totalSalary` — what a result, and all periods for the same days, pay as salary.
* `oneSalary` — the salary for these days.
* `HistoryFirst` — the history of the employee comes before the payroll.

## Main results

* `PaysEmployee.salaryOf` — a result pays one salary.
* `salary_at_most_once` — when no more than one salary is paid for the same days.
* `salary_only_while_employed` — when no salary is paid for a day after a termination.
* `salary_twice_on_reassignment`, `salary_after_termination` — that both happen.
-/

namespace GroceryErp

open Decimal Effective Outcome Rows Runs

variable {db₀ db db' : Db} {employeeId : ℕ} {a b : Date}

/-! ### The lines of a salary -/

/-- The line pays a salary; a line of hours says how many. -/
def PayrollEarningLine.IsSalary (l : PayrollEarningLine) : Prop := l.hours = none

instance (l : PayrollEarningLine) : Decidable l.IsSalary := inferInstanceAs (Decidable (_ = _))

/-- What a result pays as salary, over its earning lines of that kind. -/
def salaryOf (r : PayrollEmployeeResult) : ℚ :=
  sumWhere PayrollEarningLine.IsSalary PayrollEarningLine.amount r.earningLines

/-- A segment has a line of salary exactly where it is one of a salary. -/
theorem isSalary_segmentLines {policy : Option OvertimePolicy} {days hours : ℚ}
    {s : CompensationSegment} {l : PayrollEarningLine} (h : l ∈ segmentLines policy days hours s) :
    l.IsSalary ↔ s.value.val.payType = .salary := by
  unfold segmentLines at h
  split at h
  · next hpay =>
    simp only [hpay, reduceCtorEq, iff_false, PayrollEarningLine.IsSalary]
    unfold hourlyLines at h
    dsimp only at h
    split at h
    · rw [List.mem_singleton.mp h]
      exact Option.some_ne_none _
    · rcases List.mem_cons.mp h with rfl | h
      · exact Option.some_ne_none _
      · split at h
        · rw [List.mem_singleton.mp h]
          exact Option.some_ne_none _
        · cases h
  · next hpay =>
    rw [List.mem_singleton.mp h]
    simp [hpay, PayrollEarningLine.IsSalary]

theorem sumWhere_isSalary_segmentLines (policy : Option OvertimePolicy) (days hours : ℚ)
    (s : CompensationSegment) :
    sumWhere PayrollEarningLine.IsSalary PayrollEarningLine.amount
        (segmentLines policy days hours s)
      = if s.value.val.payType = .salary then salaryAmount days s else 0 := by
  split
  · next hpay => simp [segmentLines, hpay, PayrollEarningLine.IsSalary]
  · next hpay =>
    apply sumWhere_eq_zero
    intro l hl hsalary
    exact absurd ((isSalary_segmentLines hl).mp hsalary) hpay

/-- The salary of an employee for the days from `a` to `b`. -/
def oneSalary (db : Db) (employeeId : ℕ) (a b : Date) : ℚ :=
  sumWhere (fun s => s.value.val.payType = .salary) (salaryAmount (daysFrom a b))
    (resolveCompensationSegments db employeeId a b)

theorem oneSalary_nonneg (hab : a ≤ b) : 0 ≤ oneSalary db employeeId a b := by
  apply sumWhere_nonneg
  intro s hs _
  obtain ⟨-, hle, -⟩ := segment_bounds hab hs
  exact salaryAmount_nonneg (daysFrom_nonneg hab) hle

/-- **A result pays one salary, whatever part of the days the employee was at the store.** -/
theorem PaysEmployee.salaryOf {i : ℕ} {period : PayrollPeriod} {policy : Option OvertimePolicy}
    {r : PayrollEmployeeResult} (h : PaysEmployee db i period policy employeeId r) :
    salaryOf r = oneSalary db employeeId period.periodStart period.periodEnd := by
  unfold GroceryErp.salaryOf oneSalary
  rw [h.earning_lines, sumWhere_flatMap, sumWhere_eq_sum_map]
  congr 1
  apply List.map_congr_left
  intro s _
  exact sumWhere_isSalary_segmentLines _ _ _ s

/-- The columns keep the salary, as every line of a result is in whole cents. -/
theorem salaryOf_stored {r : PayrollEmployeeResult} (h : r.Adds) : salaryOf r.stored = salaryOf r := by
  unfold salaryOf
  simp only [PayrollEmployeeResult.stored, sumWhere_map]
  apply sumWhere_congr
  · intro l _
    simp [PayrollEarningLine.IsSalary, PayrollEarningLine.stored]
  · intro l hl _
    exact numeric_eq_self (h.earnings_onGrid l hl)

/-! ### The salary of a period -/

/-- The employee is assigned to the store on some day from `a` to `b`. -/
def AssignedDuring (db : Db) (employeeId storeId : ℕ) (a b : Date) : Prop :=
  employeeId ∈ employeesAssignedToStoreDuring db storeId a b

instance AssignedDuring.decidable (db : Db) (employeeId storeId : ℕ) (a b : Date) :
    Decidable (AssignedDuring db employeeId storeId a b) := inferInstanceAs (Decidable (_ ∈ _))

/-- What the drafts of a period pay an employee as salary. -/
def salaryIn (employeeId : ℕ) (drafts : List PayrollEmployeeResult) : ℚ :=
  sumWhere (·.employeeId = employeeId) salaryOf drafts

theorem salaryIn_of_pays {i : ℕ} {period : PayrollPeriod} {policy : Option OvertimePolicy}
    {ids : List ℕ} {drafts : List PayrollEmployeeResult}
    (hpays : List.Forall₂ (PaysEmployee db i period policy) ids drafts) (hnodup : ids.Nodup) :
    salaryIn employeeId (drafts.map PayrollEmployeeResult.stored)
      = if employeeId ∈ ids then oneSalary db employeeId period.periodStart period.periodEnd
        else 0 := by
  induction hpays with
  | nil => rfl
  | @cons id r ids drafts hpay hrest ih =>
    obtain ⟨hfresh, hnodup⟩ := List.nodup_cons.mp hnodup
    have hid : r.stored.employeeId = id := hpay.of_employee
    unfold salaryIn at ih ⊢
    rw [List.map_cons, sumWhere_cons, ih hnodup, hid]
    by_cases heq : id = employeeId
    · subst heq
      rw [if_pos rfl, if_neg hfresh, if_pos List.mem_cons_self, add_zero,
        salaryOf_stored hpay.adds, hpay.salaryOf]
    · rw [if_neg heq, zero_add]
      simp [Ne.symm heq]

/-- **A period pays every employee of the store one salary, and nobody else.** -/
theorem salaryIn_of_eval {i : ℕ} {period : PayrollPeriod} {drafts : List PayrollEmployeeResult}
    (h : (calculation i period).eval db = .ok drafts) :
    salaryIn employeeId (drafts.map PayrollEmployeeResult.stored)
      = if AssignedDuring db employeeId period.storeId period.periodStart period.periodEnd
        then oneSalary db employeeId period.periodStart period.periodEnd else 0 := by
  obtain ⟨policy, -, hpays⟩ := calculation_eq_ok h
  exact salaryIn_of_pays hpays (nodup_distinct _)

/-! ### The same days in every store -/

/-- A live period for exactly the days from `a` to `b`. -/
def PaysFor (db : Db) (a b : Date) (x : ℕ × Row PayrollPeriod) : Prop :=
  Live db x.1 x.2.val ∧ x.2.val.periodStart = a ∧ x.2.val.periodEnd = b

instance PaysFor.decidable (db : Db) (a b : Date) (x : ℕ × Row PayrollPeriod) :
    Decidable (PaysFor db a b x) := inferInstanceAs (Decidable (_ ∧ _))

/-- The live periods for exactly the days from `a` to `b`, of all stores. -/
def periodsFor (db : Db) (a b : Date) : List (ℕ × Row PayrollPeriod) :=
  (withKeys db.payroll.periods).filter (PaysFor db a b ·)

/-- What the periods of all stores for the same days pay an employee as salary. -/
def totalSalary (db : Db) (employeeId : ℕ) (a b : Date) : ℚ :=
  ((periodsFor db a b).map fun x => salaryIn employeeId (draftsOf db x.1)).sum

theorem mem_periodsFor {x : ℕ × Row PayrollPeriod} :
    x ∈ periodsFor db a b ↔ db.payroll.periods[x.1]? = some x.2 ∧ PaysFor db a b x := by
  obtain ⟨i, p⟩ := x
  unfold periodsFor withKeys
  rw [List.mem_filter, mem_rowsWhere]
  simp

theorem nodup_periodsFor : (periodsFor db a b).Nodup :=
  ((nodup_fst_rowsWhere _ _).of_map _).filter _

/-- The request changes an assignment or the compensation of the employee. -/
def WorkforceRequest.ChangesHistory (db : Db) (employeeId : ℕ) : WorkforceRequest → Prop
  | .hireEmployee _ => db.hr.employees.length = employeeId
  | .reassignEmployee req => req.employeeId = employeeId
  | .changeCompensation req => req.employeeId = employeeId
  | _ => False

instance WorkforceRequest.decidableChangesHistory (db : Db) (employeeId : ℕ) :
    (r : WorkforceRequest) → Decidable (r.ChangesHistory db employeeId)
  | .hireEmployee _ => inferInstanceAs (Decidable (_ = _))
  | .reassignEmployee _ => inferInstanceAs (Decidable (_ = _))
  | .changeCompensation _ => inferInstanceAs (Decidable (_ = _))
  | .changeEmploymentStatus _ | .clockIn _ | .clockOut _ | .correctAttendance _ | .configure _
  | .createPayrollPeriod _ | .openPayrollPeriod _ | .calculatePayrollPeriod _
  | .approvePayrollPeriod _ | .cancelPayrollPeriod _ | .postPayrollPeriod _
  | .reversePayrollPeriod _ => .isFalse id

/-- The history of the employee is not changed once a period for the days pays. -/
def HistoryFirst (employeeId : ℕ) (a b : Date) (db : Db) (r : WorkforceRequest) : Prop :=
  r.ChangesHistory db employeeId → periodsFor db a b = []

instance HistoryFirst.decidable (employeeId : ℕ) (a b : Date) (db : Db) (r : WorkforceRequest) :
    Decidable (HistoryFirst employeeId a b db r) := inferInstanceAs (Decidable (_ → _))

/-- The assignments and the compensation of the employee are as they were. -/
structure SameHistory (employeeId : ℕ) (db db' : Db) : Prop where
  assignments : rowsOf db'.hr.assignments employeeId = rowsOf db.hr.assignments employeeId
  compensations : rowsOf db'.hr.compensations employeeId = rowsOf db.hr.compensations employeeId

theorem SameHistory.of_hr (h : db'.hr = db.hr) : SameHistory employeeId db db' := by
  constructor
  · rw [h]
  · rw [h]

theorem SameHistory.trans {db₁ db₂ db₃ : Db} (h : SameHistory employeeId db₁ db₂)
    (h' : SameHistory employeeId db₂ db₃) : SameHistory employeeId db₁ db₃ :=
  ⟨h'.assignments.trans h.assignments, h'.compensations.trans h.compensations⟩

/-- **Only a request that changes the history of an employee changes it.** -/
theorem exec_sameHistory {r : WorkforceRequest} (hr : ¬r.ChangesHistory db employeeId)
    (h : r.exec db = .ok db') : SameHistory employeeId db db' := by
  by_cases hpay : r.IsPayroll
  · exact .of_hr (exec_hr hpay h)
  · cases r with
    -- a hiring appends rows of the new employee
    | hireEmployee req =>
      obtain ⟨statuses, assignments, -, hassignments, rfl⟩ := hireEmployee_ok h
      exact ⟨rowsOf_append_of_ne hassignments hr, rfl⟩
    | changeEmploymentStatus req =>
      obtain ⟨⟨statuses, rfl⟩, -⟩ := changeEmploymentStatus_ok h
      exact ⟨rfl, rfl⟩
    | reassignEmployee req =>
      obtain ⟨⟨assignments, rfl⟩, -, hothers⟩ := reassignEmployee_ok h
      exact ⟨hothers employeeId (Ne.symm hr), rfl⟩
    | changeCompensation req =>
      obtain ⟨⟨compensations, rfl⟩, -, hothers⟩ := changeCompensation_ok h
      exact ⟨rfl, hothers employeeId (Ne.symm hr)⟩
    | clockIn req =>
      obtain ⟨workDate, record, -, rfl⟩ := clockIn_ok h
      exact ⟨rfl, rfl⟩
    | clockOut req =>
      obtain ⟨record, closed, -, -, -, rfl⟩ := clockOut_ok h
      exact ⟨rfl, rfl⟩
    | correctAttendance req =>
      obtain ⟨original, voided, record, workDate, -, -, -, -, -, rfl⟩ := correctAttendance_ok h
      exact ⟨rfl, rfl⟩
    | configure req =>
      cases h
      exact ⟨rfl, rfl⟩
    | createPayrollPeriod _ | openPayrollPeriod _ | calculatePayrollPeriod _
    | approvePayrollPeriod _ | cancelPayrollPeriod _ | postPayrollPeriod _
    | reversePayrollPeriod _ => exact absurd trivial hpay

/-- The salary is that of the history. -/
theorem SameHistory.oneSalary (h : SameHistory employeeId db db') :
    oneSalary db' employeeId a b = oneSalary db employeeId a b := by
  unfold GroceryErp.oneSalary resolveCompensationSegments
  rw [segments_congr h.compensations]

/-- So is the assignment: who is paid in a store depends on the history alone. -/
theorem SameHistory.assignedDuring (h : SameHistory employeeId db db') {storeId : ℕ} :
    AssignedDuring db' employeeId storeId a b ↔ AssignedDuring db employeeId storeId a b := by
  have hrows : ∀ d : Db, AssignedDuring d employeeId storeId a b ↔
      ∃ e ∈ rowsOf d.hr.assignments employeeId, e.value.storeId = storeId ∧ e.Meets a b := by
    intro d
    simp only [AssignedDuring, employeesAssignedToStoreDuring, mem_distinct, List.mem_map,
      List.mem_filter, rowsOf, decide_eq_true_eq]
    constructor
    · rintro ⟨e, ⟨he, hstore, hmeets⟩, howner⟩
      exact ⟨e, ⟨he, howner⟩, hstore, hmeets⟩
    · rintro ⟨e, ⟨he, howner⟩, hstore, hmeets⟩
      exact ⟨e, ⟨he, hstore, hmeets⟩, howner⟩
  rw [hrows, hrows, h.assignments]

/-! ### Runs -/

/-- A run of requests is one that leaves traces. -/
theorem exists_traced {ok : Db → WorkforceRequest → Prop}
    (run : Reaches WorkforceRequest.exec ok db₀ db) :
    ∃ t : Traced, t.db = db ∧ Reaches Traced.exec (fun t r => ok t.db r) { db := db₀ } t := by
  induction run with
  | start => exact ⟨{ db := db₀ }, rfl, .start⟩
  | @next s s' r run meets done ih =>
    obtain ⟨t, rfl, htraced⟩ := ih
    refine ⟨⟨s', r.sources t.db t.source⟩, rfl, htraced.next meets ?_⟩
    exact Traced.exec_eq_ok.mpr ⟨done, rfl⟩

/-- The periods for the days have been calculated from the history there is. -/
def HistoryKept (employeeId : ℕ) (a b : Date) (t : Traced) : Prop :=
  ∀ x ∈ periodsFor t.db a b, ∀ db₀, t.source x.1 = some db₀ → SameHistory employeeId db₀ t.db

theorem HistoryKept.exec {r : WorkforceRequest} {t t' : Traced}
    (h : HistoryKept employeeId a b t) (hok : HistoryFirst employeeId a b t.db r)
    (hdone : Traced.exec r t = .ok t') : HistoryKept employeeId a b t' := by
  obtain ⟨hexec, -⟩ := Traced.exec_eq_ok.mp hdone
  intro x hx db₀ hdb₀
  obtain ⟨hrow, ⟨hres, hlive⟩, hstart, hend⟩ := mem_periodsFor.mp hx
  cases Traced.exec_period hdone hrow hres with
  | calculated request effective of_period evaluated done source =>
    obtain rfl := Option.some.inj (hdb₀.symm.trans source)
    exact .of_hr done.hr
  | @kept p row had same source =>
    -- the period was one for the days before, so the request does not change the history
    have hbefore : (x.1, p) ∈ periodsFor t.db a b := by
      refine mem_periodsFor.mpr ⟨row, ⟨had, fun hreversed => hlive ?_⟩, ?_, ?_⟩
      · exact hreversed.since (exec_payrollStep hexec).since
      · exact same.range.periodStart.symm.trans hstart
      · exact same.range.periodEnd.symm.trans hend
    have hkeeps : ¬r.ChangesHistory t.db employeeId := by
      intro hchanges
      rw [hok hchanges] at hbefore
      cases hbefore
    exact (h _ hbefore db₀ (source.symm.trans hdb₀)).trans (exec_sameHistory hkeeps hexec)

/-- The periods for the days, of the stores that the employee is assigned to. -/
def assignedPeriods (db : Db) (employeeId : ℕ) (a b : Date) : List (ℕ × Row PayrollPeriod) :=
  (periodsFor db a b).filter fun x => AssignedDuring db employeeId x.2.val.storeId a b

/-- **Every such period pays one salary.** -/
theorem totalSalary_eq (start : BeforePayroll db₀)
    (run : Reaches WorkforceRequest.exec (HistoryFirst employeeId a b) db₀ db) :
    totalSalary db employeeId a b
      = (assignedPeriods db employeeId a b).length * oneSalary db employeeId a b := by
  obtain ⟨t, rfl, htraced⟩ := exists_traced run
  have hnone : HistoryKept employeeId a b { db := db₀ } := by
    intro x hx
    have hrow := (mem_periodsFor.mp hx).1
    rw [start.periods] at hrow
    cases hrow
  have hboth : TracedInOrder t ∧ HistoryKept employeeId a b t := by
    apply htraced.invariant ⟨start.tracedInOrder, hnone⟩
    intro s r s' hs hok hdone
    exact ⟨hs.1.exec hdone, hs.2.exec hok hdone⟩
  have hpays : ∀ x ∈ periodsFor t.db a b, salaryIn employeeId (draftsOf t.db x.1)
      = if AssignedDuring t.db employeeId x.2.val.storeId a b then oneSalary t.db employeeId a b
        else 0 := by
    intro x hx
    obtain ⟨hrow, ⟨hres, -⟩, rfl, rfl⟩ := mem_periodsFor.mp hx
    obtain ⟨db₁, drafts, hsource, heval, hdrafts, -⟩ := hboth.1 x.1 x.2 hrow hres
    have hsame := hboth.2 x hx db₁ hsource
    rw [hdrafts, salaryIn_of_eval heval, hsame.oneSalary]
    simp only [hsame.assignedDuring]
  unfold totalSalary assignedPeriods
  rw [List.map_congr_left hpays, ← sumWhere_eq_sum_map, sumWhere, List.map_const',
    List.sum_replicate, nsmul_eq_mul]

/-- **An employee is paid more than one salary for the same days** exactly where two stores
that the employee is assigned to have a live period for them, and there is a salary. -/
theorem salary_at_most_once (start : BeforePayroll db₀) (hab : a ≤ b)
    (run : Reaches WorkforceRequest.exec (HistoryFirst employeeId a b) db₀ db) :
    totalSalary db employeeId a b ≤ oneSalary db employeeId a b ↔
      oneSalary db employeeId a b = 0 ∨
        ∀ x ∈ periodsFor db a b, ∀ y ∈ periodsFor db a b,
          AssignedDuring db employeeId x.2.val.storeId a b →
          AssignedDuring db employeeId y.2.val.storeId a b → x = y := by
  -- periods that differ in nothing but their store are counted by the list of them
  have hpairs : (∀ x ∈ periodsFor db a b, ∀ y ∈ periodsFor db a b,
      AssignedDuring db employeeId x.2.val.storeId a b →
      AssignedDuring db employeeId y.2.val.storeId a b → x = y) ↔
      (assignedPeriods db employeeId a b).length ≤ 1 := by
    have hnodup : (assignedPeriods db employeeId a b).Nodup := nodup_periodsFor.filter _
    rw [← List.toFinset_card_of_nodup hnodup, Finset.card_le_one]
    simp only [List.mem_toFinset, assignedPeriods, List.mem_filter, decide_eq_true_eq]
    constructor
    · rintro h x ⟨hx, hxs⟩ y ⟨hy, hys⟩
      exact h x hx y hy hxs hys
    · intro h x hx y hy hxs hys
      exact h x ⟨hx, hxs⟩ y ⟨hy, hys⟩
  rw [hpairs, totalSalary_eq start run]
  have hnonneg : 0 ≤ oneSalary db employeeId a b := oneSalary_nonneg hab
  constructor
  · intro hle
    by_contra hnot
    obtain ⟨hne, hmany⟩ := not_or.mp hnot
    have hpos : 0 < oneSalary db employeeId a b := lt_of_le_of_ne hnonneg (Ne.symm hne)
    -- two such periods would pay two salaries
    have htwo : (2 : ℚ) ≤ (assignedPeriods db employeeId a b).length := by
      exact_mod_cast not_le.mp hmany
    nlinarith
  · rintro (hzero | hone)
    · rw [hzero, mul_zero]
    · have hcount : ((assignedPeriods db employeeId a b).length : ℚ) ≤ 1 := by exact_mod_cast hone
      nlinarith

/-- A salary is paid in the period of the one store. -/
def paidOnce : Db :=
  value (([hireFor 0, paySalary] ++ openedFor 0 0 1 30 ++ [calculateAt 0 0]).foldlM
    (guarded WorkforceRequest.exec (HistoryFirst 0 1 30) .assertion) newShops) (by decide +kernel)

theorem salary_at_most_once_one_store : totalSalary paidOnce 0 1 30 ≤ oneSalary paidOnce 0 1 30 := by
  have run : Reaches WorkforceRequest.exec (HistoryFirst 0 1 30) newShops paidOnce :=
    reaches_of_guarded (eq_ok_value _ _)
  refine (salary_at_most_once newShops_beforePayroll (by decide) run).mpr (.inr ?_)
  have hone : (periodsFor paidOnce 1 30).length = 1 := by decide +kernel
  obtain ⟨x, hx⟩ := List.length_eq_one_iff.mp hone
  intro y hy z hz _ _
  rw [hx] at hy hz
  rw [List.mem_singleton.mp hy, List.mem_singleton.mp hz]

/-- The first employee goes to the second store on day 11. -/
def moveOn : WorkforceRequest :=
  .reassignEmployee { employeeId := 0, effectiveFrom := 11, assignment := ⟨1, none, none, none⟩ }

/-- Both stores pay the month in which the employee has moved. -/
def paidTwice : Db :=
  value (([hireFor 0, paySalary, moveOn] ++ openedFor 0 0 1 30 ++ openedFor 1 1 1 30
    ++ [calculateAt 0 0, calculateAt 1 0]).foldlM
    (guarded WorkforceRequest.exec (HistoryFirst 0 1 30) .assertion) newShops) (by decide +kernel)

/-- **An employee who moves between stores is paid the whole salary by both.** -/
theorem salary_twice_on_reassignment :
    Reaches WorkforceRequest.exec (HistoryFirst 0 1 30) newShops paidTwice ∧
      oneSalary paidTwice 0 1 30 = 3000 ∧ totalSalary paidTwice 0 1 30 = 6000 :=
  ⟨reaches_of_guarded (eq_ok_value _ _), by decide +kernel, by decide +kernel⟩

/-! ### Terminated employees -/

/-- The result has a line of salary for the day. -/
def SalaryFor (r : PayrollEmployeeResult) (d : Date) : Prop :=
  ∃ l ∈ r.earningLines, l.IsSalary ∧ l.description.1 ≤ d ∧ d ≤ l.description.2

/-- The one line of a segment on a salary. -/
theorem segmentLines_salary {s : CompensationSegment} (hpay : s.value.val.payType = .salary)
    (policy : Option OvertimePolicy) (days hours : ℚ) :
    segmentLines policy days hours s = [⟨.regular, none, some s.value.val.rate,
      salaryAmount days s, (s.first, s.last)⟩] := by
  unfold segmentLines
  rw [hpay]

/-- The pay of a day is that of its segment. -/
theorem payTypeOn_eq_some_iff {d : Date} (ha : a ≤ d) (hb : d ≤ b) {pay : PayType} :
    payTypeOn db employeeId d = some pay ↔
      ∃ s ∈ resolveCompensationSegments db employeeId a b,
        s.Has d ∧ s.value.val.payType = pay := by
  unfold payTypeOn compensationOn
  rw [Option.map_eq_some_iff]
  constructor
  · rintro ⟨c, hc, hpay⟩
    obtain ⟨s, hs, hhas, rfl⟩ := (exists_segment_iff ha hb).mpr hc
    exact ⟨s, hs, hhas, hpay⟩
  · rintro ⟨s, hs, hhas, hpay⟩
    exact ⟨s.value, (exists_segment_iff ha hb).mp ⟨s, hs, hhas, rfl⟩, hpay⟩

/-- A day has a line of salary exactly where the employee is on a salary that day. -/
theorem PaysEmployee.exists_salary_line_iff {i : ℕ} {period : PayrollPeriod}
    {policy : Option OvertimePolicy} {r : PayrollEmployeeResult}
    (h : PaysEmployee db i period policy employeeId r) {d : Date} (hd : period.Has d) :
    SalaryFor r d ↔ payTypeOn db employeeId d = some .salary := by
  unfold SalaryFor
  rw [payTypeOn_eq_some_iff hd.1 hd.2, h.earning_lines]
  constructor
  · rintro ⟨l, hl, hsalary, hfirst, hlast⟩
    obtain ⟨s, hs, hl⟩ := List.mem_flatMap.mp hl
    have hpay := (isSalary_segmentLines hl).mp hsalary
    rw [segmentLines_salary hpay] at hl
    rw [List.mem_singleton.mp hl] at hfirst hlast
    exact ⟨s, hs, ⟨hfirst, hlast⟩, hpay⟩
  · rintro ⟨s, hs, hhas, hpay⟩
    have hline := segmentLines_salary hpay policy
      (daysFrom period.periodStart period.periodEnd)
      (sumAttendanceHours db employeeId period.storeId s.first s.last)
    refine ⟨_, List.mem_flatMap.mpr ⟨s, hs, hline ▸ List.mem_singleton_self _⟩, ?_⟩
    exact ⟨rfl, hhas.1, hhas.2⟩

/-- The days of a line are days of the period. -/
theorem PaysEmployee.line_days {i : ℕ} {period : PayrollPeriod} {policy : Option OvertimePolicy}
    {r : PayrollEmployeeResult} (h : PaysEmployee db i period policy employeeId r)
    (hrange : period.periodStart ≤ period.periodEnd) {l : PayrollEarningLine}
    (hl : l ∈ r.earningLines) (hsalary : l.IsSalary) {d : Date} (hfirst : l.description.1 ≤ d)
    (hlast : d ≤ l.description.2) : period.Has d := by
  rw [h.earning_lines] at hl
  obtain ⟨s, hs, hl⟩ := List.mem_flatMap.mp hl
  have hpay := (isSalary_segmentLines hl).mp hsalary
  rw [segmentLines_salary hpay] at hl
  rw [List.mem_singleton.mp hl] at hfirst hlast
  obtain ⟨hstart, -, hend⟩ := segment_bounds hrange hs
  exact ⟨hstart.trans hfirst, hlast.trans hend⟩

theorem salaryFor_stored {r : PayrollEmployeeResult} {d : Date} :
    SalaryFor r.stored d ↔ SalaryFor r d := by
  simp [SalaryFor, PayrollEmployeeResult.stored, PayrollEarningLine.stored,
    PayrollEarningLine.IsSalary]

/-- The drafts pay no salary for a day on which the employee is terminated. -/
theorem drafts_while_employed_iff {i : ℕ} {period : PayrollPeriod}
    {drafts : List PayrollEmployeeResult} (heval : (calculation i period).eval db = .ok drafts)
    (hrange : period.periodStart ≤ period.periodEnd) :
    (∀ r ∈ drafts, ∀ d, SalaryFor r d → statusOn db r.employeeId d ≠ some .terminated) ↔
      ∀ employeeId, AssignedDuring db employeeId period.storeId period.periodStart
          period.periodEnd → ∀ d, period.Has d →
        payTypeOn db employeeId d = some .salary → statusOn db employeeId d ≠ some .terminated := by
  obtain ⟨policy, -, hpays⟩ := calculation_eq_ok heval
  constructor
  · intro hlines employeeId hassigned d hd hpay
    obtain ⟨k, hk, hid⟩ := List.getElem_of_mem hassigned
    have hkd : k < drafts.length := hpays.length_eq ▸ hk
    have hpaysk := (List.forall₂_iff_get.mp hpays).2 k hk hkd
    have hsalary : SalaryFor drafts[k] d :=
      (hpaysk.exists_salary_line_iff hd).mpr (by rw [List.get_eq_getElem, hid]; exact hpay)
    have hemployee : drafts[k].employeeId = employeeId := hpaysk.of_employee.trans hid
    rw [← hemployee]
    exact hlines _ (List.getElem_mem hkd) d hsalary
  · intro hemployed r hr d hsalary
    obtain ⟨k, hk, rfl⟩ := List.getElem_of_mem hr
    have hki := hpays.length_eq ▸ hk
    have hpaysk := (List.forall₂_iff_get.mp hpays).2 k hki hk
    obtain ⟨l, hl, hline, hfirst, hlast⟩ := hsalary
    have hd := hpaysk.line_days hrange hl hline hfirst hlast
    have hpay := (hpaysk.exists_salary_line_iff hd).mp ⟨l, hl, hline, hfirst, hlast⟩
    have hemployee : drafts[k].employeeId = _ := hpaysk.of_employee
    rw [hemployee]
    exact hemployed _ (List.getElem_mem hki) d hd hpay

/-- **A period pays no salary for a day on which the employee is terminated** exactly where,
when it was calculated, no employee with an assignment at the store was terminated on a day
of the period that the compensation has a salary for. -/
theorem salary_only_while_employed {t : Traced} {i : ℕ} {p : Row PayrollPeriod}
    (start : BeforePayroll db₀)
    (run : Reaches Traced.exec (fun _ _ => True) { db := db₀ } t)
    (hrow : t.db.payroll.periods[i]? = some p) (hres : p.val.status.HasResults)
    (hsource : t.source i = some db) :
    (∀ r ∈ resultsOf t.db i, ∀ d, SalaryFor r.val d →
        statusOn db r.val.employeeId d ≠ some .terminated) ↔
      ∀ employeeId, AssignedDuring db employeeId p.val.storeId p.val.periodStart
          p.val.periodEnd → ∀ d, p.val.Has d →
        payTypeOn db employeeId d = some .salary → statusOn db employeeId d ≠ some .terminated := by
  obtain ⟨db₁, drafts, hsource₁, heval, hdrafts, -⟩ := tracedInOrder_of_reaches start run i p hrow hres
  obtain rfl := Option.some.inj (hsource.symm.trans hsource₁)
  rw [← drafts_while_employed_iff heval p.property.valid_range]
  have hstored : (∀ r ∈ draftsOf t.db i, ∀ d, SalaryFor r d →
      statusOn db r.employeeId d ≠ some .terminated) ↔
      ∀ r ∈ drafts, ∀ d, SalaryFor r d → statusOn db r.employeeId d ≠ some .terminated := by
    rw [hdrafts, List.forall_mem_map]
    simp only [salaryFor_stored]
    rfl
  rw [← hstored, draftsOf, List.forall_mem_map]
  rfl

/-- A salary is paid for a month, and the month is traced. -/
def tracedOnce : Traced :=
  value (([hireFor 0, paySalary] ++ openedFor 0 0 1 30 ++ [calculateAt 0 0]).foldlM
    (fun t r => Traced.exec r t) { db := newShops }) (by decide +kernel)

/-- In a run with one store and one employee, who stays, nobody who is paid for the twentieth day is
terminated on it. -/
theorem salary_only_while_employed_one_store :
    (resultsOf tracedOnce.db 0).length = 1 ∧
      ∀ r ∈ resultsOf tracedOnce.db 0, SalaryFor r.val 20 →
        ∃ db, tracedOnce.source 0 = some db ∧
          statusOn db r.val.employeeId 20 ≠ some .terminated := by
  have hperiod : (tracedOnce.db.payroll.periods.map (·.val.status)) = [.calculated] := by
    decide +kernel
  obtain ⟨p, hp, hstatus⟩ := List.map_eq_singleton_iff.mp hperiod
  have hsome : (tracedOnce.source 0).isSome := by decide +kernel
  obtain ⟨db, hdb⟩ := Option.isSome_iff_exists.mp hsome
  have hactive : ∀ d ∈ tracedOnce.source 0, ∀ e ∈ d.hr.statuses.rows, e.value ≠ .terminated := by
    decide +kernel
  have hrow : tracedOnce.db.payroll.periods[0]? = some p := by rw [hp]; rfl
  have run : Reaches Traced.exec (fun _ _ => True) { db := newShops } tracedOnce :=
    reaches_of_foldlM (eq_ok_value _ _)
  refine ⟨by decide +kernel, fun r hr hsalary => ?_⟩
  refine ⟨db, hdb, (salary_only_while_employed newShops_beforePayroll run hrow (.inl hstatus)
    hdb).mpr ?_ r hr 20 hsalary⟩
  intro employeeId _ d _ _ hterminated
  obtain ⟨e, he, -, -, hvalue⟩ := History.on_eq_some.mp hterminated
  exact hactive db hdb e he hvalue

/-- The first employee is terminated on day 10. -/
def letGo : WorkforceRequest :=
  .changeEmploymentStatus { employeeId := 0, newStatus := .terminated, effectiveFrom := 10 }

/-- A period that begins after the termination is calculated. -/
def paidAfterwards : Traced :=
  value (([hireFor 0, paySalary, letGo] ++ openedFor 0 0 20 49 ++ [calculateAt 0 0]).foldlM
    (fun t r => Traced.exec r t) { db := newShops }) (by decide +kernel)

/-- **A terminated employee is paid the whole salary of a period that begins later.** -/
theorem salary_after_termination :
    Reaches Traced.exec (fun _ _ => True) { db := newShops } paidAfterwards ∧
      (resultsOf paidAfterwards.db 0).map (fun r => (r.val.employeeId, salaryOf r.val))
        = [(0, 3000)] ∧
      (resultsOf paidAfterwards.db 0).flatMap (fun r => r.val.earningLines.map (·.description))
        = [(20, 49)] ∧
      ∀ d, 20 ≤ d → statusOn paidAfterwards.db 0 d = some .terminated := by
  refine ⟨reaches_of_foldlM (eq_ok_value _ _), by decide +kernel, by decide +kernel, ?_⟩
  intro d hd
  have hrow : ⟨0, .terminated, 10, none⟩ ∈ paidAfterwards.db.hr.statuses.rows := by decide +kernel
  refine History.on_eq_some.mpr ⟨_, hrow, rfl, ⟨?_, nofun⟩, rfl⟩
  exact le_trans (by decide) hd

end GroceryErp
