import GroceryErp.Lib.Runs
import GroceryErp.Payroll.Periods

/-!
# The requests of hr and payroll

Everything the two modules do, one request at a time, and the overtime policies and
deduction rates, which have no service and are set in the database.

## Main definitions

* `WorkforceRequest`, `WorkforceRequest.exec` — the requests.
* `PayrollStep` — what a request does to periods, results, reversals and entries.
* `AttendanceStep` — what it does to the shifts.

## Main results

* `exec_payrollStep`, `exec_attendanceStep` — every request does one of the few things.
* `exec_aside`, `exec_hr` — hr leaves the tables of payroll alone, and payroll those of hr.
-/

namespace GroceryErp

open Decimal Effective Outcome Rows

/-- The tables that are set in the database. -/
structure Configure where
  overtimePolicies : History Unit (Row OvertimePolicy) Date
  deductionTypes : List DeductionType
  deductionRates : History ℕ CalculationMethod Date

/-- The overtime policies and the deductions are set. -/
def configure (db : Db) (req : Configure) : Db :=
  { db with
    hr.overtimePolicies := req.overtimePolicies
    payroll.deductionTypes := req.deductionTypes
    payroll.deductionRates := req.deductionRates }

inductive WorkforceRequest
  | hireEmployee (req : HireEmployee)
  | changeEmploymentStatus (req : ChangeEmploymentStatus)
  | reassignEmployee (req : ReassignEmployee)
  | changeCompensation (req : ChangeCompensation)
  | clockIn (req : ClockIn)
  | clockOut (req : ClockOut)
  | correctAttendance (req : CorrectAttendance)
  | configure (req : Configure)
  | createPayrollPeriod (req : CreatePayrollPeriod)
  | openPayrollPeriod (req : PayrollPeriodRequest)
  | calculatePayrollPeriod (req : CalculatePayrollPeriod)
  | approvePayrollPeriod (req : ApprovePayrollPeriod)
  | cancelPayrollPeriod (req : CancelPayrollPeriod)
  | postPayrollPeriod (req : PostPayrollPeriod)
  | reversePayrollPeriod (req : ReversePayrollPeriod)

/-- One request, with its own transaction from beginning to commit. -/
def WorkforceRequest.exec : WorkforceRequest → Db → Result Db
  | .hireEmployee req, db => GroceryErp.hireEmployee db req
  | .changeEmploymentStatus req, db => GroceryErp.changeEmploymentStatus db req
  | .reassignEmployee req, db => GroceryErp.reassignEmployee db req
  | .changeCompensation req, db => GroceryErp.changeCompensation db req
  | .clockIn req, db => GroceryErp.clockIn db req
  | .clockOut req, db => GroceryErp.clockOut db req
  | .correctAttendance req, db => GroceryErp.correctAttendance db req
  | .configure req, db => .ok (GroceryErp.configure db req)
  | .createPayrollPeriod req, db => GroceryErp.createPayrollPeriod db req
  | .openPayrollPeriod req, db => GroceryErp.openPayrollPeriod db req
  | .calculatePayrollPeriod req, db => GroceryErp.calculatePayrollPeriod db req
  | .approvePayrollPeriod req, db => GroceryErp.approvePayrollPeriod db req
  | .cancelPayrollPeriod req, db => GroceryErp.cancelPayrollPeriod db req
  | .postPayrollPeriod req, db => GroceryErp.postPayrollPeriod db req
  | .reversePayrollPeriod req, db => GroceryErp.reversePayrollPeriod db req

/-- The request is one of the payroll module's. -/
def WorkforceRequest.IsPayroll : WorkforceRequest → Prop
  | .createPayrollPeriod _ | .openPayrollPeriod _ | .calculatePayrollPeriod _
  | .approvePayrollPeriod _ | .cancelPayrollPeriod _ | .postPayrollPeriod _
  | .reversePayrollPeriod _ => True
  | _ => False

/-! ### What a request does -/

/-- Periods, results, reversals and entries are as they were. -/
structure SamePayroll (db db' : Db) : Prop where
  periods : db'.payroll.periods = db.payroll.periods
  results : db'.payroll.results = db.payroll.results
  reversals : db'.payroll.reversals = db.payroll.reversals
  ledger : db'.ledger = db.ledger

theorem SamePayroll.refl (db : Db) : SamePayroll db db := ⟨rfl, rfl, rfl, rfl⟩

/-- The period moves on, short of being posted, and keeps its range and totals. -/
structure PayrollPeriod.Moves (p p' : PayrollPeriod) : Prop where
  from_live : p.status.Cancellable
  not_posted : p'.status ≠ .posted
  storeId : p'.storeId = p.storeId
  periodStart : p'.periodStart = p.periodStart
  periodEnd : p'.periodEnd = p.periodEnd
  totalGross : p'.totalGross = p.totalGross
  totalDeductions : p'.totalDeductions = p.totalDeductions
  totalEmployerContributions : p'.totalEmployerContributions = p.totalEmployerContributions
  totalNetPay : p'.totalNetPay = p.totalNetPay

/-- A request takes the payroll tables one step. -/
inductive PayrollStep (db : Db) : Db → Prop
  | aside {db' : Db} (same : SamePayroll db db') : PayrollStep db db'
  | created {period : Row PayrollPeriod} {storeId : ℕ} {periodStart periodEnd payDate : Date}
      (value : period.val = { storeId, periodStart, periodEnd, payDate })
      (fresh : ¬∃ p ∈ db.payroll.periods, p.val.storeId = storeId ∧
        p.val.periodStart = periodStart ∧ p.val.periodEnd = periodEnd) :
      PayrollStep db { db with payroll.periods := db.payroll.periods ++ [period] }
  | moved {payrollPeriodId : ℕ} {period period' : Row PayrollPeriod}
      (row : db.payroll.periods[payrollPeriodId]? = some period)
      (moves : period.val.Moves period'.val) :
      PayrollStep db (db.setPayrollPeriod payrollPeriodId period')
  | calculated {db' : Db} {req : CalculatePayrollPeriod} {period : Row PayrollPeriod}
      {drafts : List PayrollEmployeeResult} (done : Calculated db db' req period drafts)
      (drafted : ∃ policy, List.Forall₂
        (PaysEmployee db req.payrollPeriodId period.val policy)
        (employeesAssignedToStoreDuring db period.val.storeId period.val.periodStart
          period.val.periodEnd) drafts) : PayrollStep db db'
  | posted {req : PostPayrollPeriod} {period posted : Row PayrollPeriod}
      {entry : Row JournalEntry} (row : db.payroll.periods[req.payrollPeriodId]? = some period)
      (approved : period.val.status = .approved)
      (value : posted.val = req.posted period.val db.ledger.entries.length)
      (unposted : Unposted db .payrollPosting req.payrollPeriodId)
      (entry_value : entry.val = ⟨period.val.storeId, period.val.payDate, .payrollPosting,
        req.payrollPeriodId,
        (payrollJournalLines (totalsOf db req.payrollPeriodId) false).map storedLine⟩) :
      PayrollStep db { db with
        ledger.entries := db.ledger.entries ++ [entry]
        payroll.periods := db.payroll.periods.set req.payrollPeriodId posted
        payroll.results := db.payroll.results.map fun r =>
          if r.val.payrollPeriodId = req.payrollPeriodId then finalResult r else r }
  | reversed {req : ReversePayrollPeriod} {period : Row PayrollPeriod}
      {entry : Row JournalEntry} (row : db.payroll.periods[req.payrollPeriodId]? = some period)
      (posted : period.val.status = .posted) (unreversed : ¬Reversed db req.payrollPeriodId)
      (unposted : Unposted db .payrollReversal req.payrollPeriodId)
      (entry_value : entry.val = ⟨period.val.storeId, req.today, .payrollReversal,
        req.payrollPeriodId,
        (payrollJournalLines (totalsOf db req.payrollPeriodId) true).map storedLine⟩) :
      PayrollStep db { db with
        ledger.entries := db.ledger.entries ++ [entry]
        payroll.reversals :=
          db.payroll.reversals ++ [⟨req.payrollPeriodId, db.ledger.entries.length⟩] }

variable {db db' : Db}

/-- An update of a period that moves it on is a step. -/
theorem Updated.payrollStep {i : ℕ} {become : PayrollPeriod → PayrollPeriod → Prop}
    (h : Updated db db' i become) (hmoves : ∀ p p', become p p' → p.Moves p') :
    PayrollStep db db' := by
  rcases h with rfl | ⟨period, period', hrow, hbecome, rfl⟩
  · exact .aside (.refl db')
  · exact .moved hrow (hmoves _ _ hbecome)

/-- **A request of the hr module leaves the payroll tables alone.** -/
theorem exec_aside {r : WorkforceRequest} (h : r.exec db = .ok db') (hr : ¬r.IsPayroll) :
    SamePayroll db db' := by
  -- each of these writes its own history, the attendance, or the settings
  cases r with
  | hireEmployee req =>
    obtain ⟨statuses, assignments, -, -, rfl⟩ := hireEmployee_ok h
    exact ⟨rfl, rfl, rfl, rfl⟩
  | changeEmploymentStatus req =>
    obtain ⟨⟨statuses, rfl⟩, -⟩ := changeEmploymentStatus_ok h
    exact ⟨rfl, rfl, rfl, rfl⟩
  | reassignEmployee req =>
    obtain ⟨⟨assignments, rfl⟩, -⟩ := reassignEmployee_ok h
    exact ⟨rfl, rfl, rfl, rfl⟩
  | changeCompensation req =>
    obtain ⟨⟨compensations, rfl⟩, -⟩ := changeCompensation_ok h
    exact ⟨rfl, rfl, rfl, rfl⟩
  | clockIn req =>
    obtain ⟨workDate, record, -, rfl⟩ := clockIn_ok h
    exact ⟨rfl, rfl, rfl, rfl⟩
  | clockOut req =>
    obtain ⟨record, closed, -, -, -, rfl⟩ := clockOut_ok h
    exact ⟨rfl, rfl, rfl, rfl⟩
  | correctAttendance req =>
    obtain ⟨original, voided, record, workDate, -, -, -, -, -, rfl⟩ := correctAttendance_ok h
    exact ⟨rfl, rfl, rfl, rfl⟩
  | configure req =>
    cases h
    exact ⟨rfl, rfl, rfl, rfl⟩
  | createPayrollPeriod _ | openPayrollPeriod _ | calculatePayrollPeriod _
  | approvePayrollPeriod _ | cancelPayrollPeriod _ | postPayrollPeriod _
  | reversePayrollPeriod _ => exact absurd trivial hr

/-- **Every request takes the payroll tables one step.** -/
theorem exec_payrollStep {r : WorkforceRequest} (h : r.exec db = .ok db') :
    PayrollStep db db' := by
  cases r with
  | hireEmployee _ | changeEmploymentStatus _ | reassignEmployee _ | changeCompensation _
  | clockIn _ | clockOut _ | correctAttendance _ | configure _ => exact .aside (exec_aside h not_false)
  | createPayrollPeriod req =>
    obtain ⟨period, hperiod, hnew, rfl⟩ := createPayrollPeriod_ok h
    exact .created hperiod hnew
  -- opening, approving and cancelling move one row from a live status
  | openPayrollPeriod req =>
    refine (openPayrollPeriod_ok h).payrollStep fun p p' hp => ?_
    obtain ⟨hdraft, rfl⟩ := hp
    exact ⟨.inl hdraft, nofun, rfl, rfl, rfl, rfl, rfl, rfl, rfl⟩
  | approvePayrollPeriod req =>
    refine (approvePayrollPeriod_ok h).payrollStep fun p p' hp => ?_
    obtain ⟨hcalculated, -, rfl⟩ := hp
    exact ⟨.inr (.inr (.inl hcalculated)), nofun, rfl, rfl, rfl, rfl, rfl, rfl, rfl⟩
  | cancelPayrollPeriod req =>
    refine (cancelPayrollPeriod_ok h).payrollStep fun p p' hp => ?_
    obtain ⟨hlive, rfl⟩ := hp
    exact ⟨hlive, nofun, rfl, rfl, rfl, rfl, rfl, rfl, rfl⟩
  -- a replay, or the results replaced
  | calculatePayrollPeriod req =>
    rcases calculatePayrollPeriod_ok h with ⟨-, rfl⟩ | ⟨-, period, drafts, hdrafts, hdone⟩
    · exact .aside (.refl db')
    · obtain ⟨policy, -, hpays⟩ := calculation_eq_ok hdrafts
      exact .calculated hdone ⟨policy, hpays⟩
  | postPayrollPeriod req =>
    rcases postPayrollPeriod_ok h with rfl | ⟨period, posted, entry, hrow, happroved, hposted,
      hnew, hentry, rfl⟩
    · exact .aside (.refl db')
    · exact .posted hrow happroved hposted hnew hentry
  | reversePayrollPeriod req =>
    rcases reversePayrollPeriod_ok h with rfl | ⟨period, entry, hrow, hposted, hreversed, hnew,
      hentry, rfl⟩
    · exact .aside (.refl db')
    · exact .reversed hrow hposted hreversed hnew hentry

/-- An update of a period leaves everything else alone. -/
theorem Updated.frame {i : ℕ} {become : PayrollPeriod → PayrollPeriod → Prop}
    (h : Updated db db' i become) :
    ∃ periods, db' = { db with payroll.periods := periods } := by
  rcases h with rfl | ⟨period, period', -, -, rfl⟩
  · exact ⟨db'.payroll.periods, rfl⟩
  · exact ⟨_, rfl⟩

/-- Only a reversal of a posted period, which is not reversed yet, adds to the reversals. -/
theorem exec_reversals {r : WorkforceRequest} (h : r.exec db = .ok db') :
    db'.payroll.reversals = db.payroll.reversals ∨ ∃ (req : ReversePayrollPeriod)
      (period : Row PayrollPeriod), r = .reversePayrollPeriod req ∧
        db.payroll.periods[req.payrollPeriodId]? = some period ∧ period.val.status = .posted ∧
        ¬Reversed db req.payrollPeriodId ∧ db'.payroll.reversals
          = db.payroll.reversals ++ [⟨req.payrollPeriodId, db.ledger.entries.length⟩] := by
  cases r with
  | hireEmployee _ | changeEmploymentStatus _ | reassignEmployee _ | changeCompensation _
  | clockIn _ | clockOut _ | correctAttendance _ | configure _ =>
    exact .inl (exec_aside h not_false).reversals
  -- of the requests of payroll only the last one writes here
  | createPayrollPeriod req =>
    obtain ⟨period, -, -, rfl⟩ := createPayrollPeriod_ok h
    exact .inl rfl
  | openPayrollPeriod req =>
    obtain ⟨periods, rfl⟩ := (openPayrollPeriod_ok h).frame
    exact .inl rfl
  | approvePayrollPeriod req =>
    obtain ⟨periods, rfl⟩ := (approvePayrollPeriod_ok h).frame
    exact .inl rfl
  | cancelPayrollPeriod req =>
    obtain ⟨periods, rfl⟩ := (cancelPayrollPeriod_ok h).frame
    exact .inl rfl
  | calculatePayrollPeriod req =>
    rcases calculatePayrollPeriod_ok h with ⟨-, rfl⟩ | ⟨-, period, drafts, -, hdone⟩
    · exact .inl rfl
    · obtain ⟨period', results, -, -, rfl⟩ := hdone.written
      exact .inl rfl
  | postPayrollPeriod req =>
    rcases postPayrollPeriod_ok h with rfl | ⟨period, posted, entry, -, -, -, -, -, rfl⟩
    · exact .inl rfl
    · exact .inl rfl
  | reversePayrollPeriod req =>
    rcases reversePayrollPeriod_ok h with rfl | ⟨period, entry, hrow, hposted, hnew, -, -, rfl⟩
    · exact .inl rfl
    · exact .inr ⟨req, period, rfl, hrow, hposted, hnew, rfl⟩

/-- A request of payroll writes its tables and the ledger. -/
theorem exec_payroll_frame {r : WorkforceRequest} (h : r.exec db = .ok db') (hr : r.IsPayroll) :
    db' = { db with ledger := db'.ledger, payroll := db'.payroll } := by
  cases r with
  | createPayrollPeriod req =>
    obtain ⟨period, -, -, rfl⟩ := createPayrollPeriod_ok h
    rfl
  | openPayrollPeriod req =>
    obtain ⟨periods, rfl⟩ := (openPayrollPeriod_ok h).frame
    rfl
  | approvePayrollPeriod req =>
    obtain ⟨periods, rfl⟩ := (approvePayrollPeriod_ok h).frame
    rfl
  | cancelPayrollPeriod req =>
    obtain ⟨periods, rfl⟩ := (cancelPayrollPeriod_ok h).frame
    rfl
  -- a calculation writes results and the row, and posts nothing
  | calculatePayrollPeriod req =>
    rcases calculatePayrollPeriod_ok h with ⟨-, rfl⟩ | ⟨-, period, drafts, -, hdone⟩
    · rfl
    · obtain ⟨period', results, -, -, rfl⟩ := hdone.written
      rfl
  | postPayrollPeriod req =>
    rcases postPayrollPeriod_ok h with rfl | ⟨period, posted, entry, -, -, -, -, -, rfl⟩
    · rfl
    · rfl
  | reversePayrollPeriod req =>
    rcases reversePayrollPeriod_ok h with rfl | ⟨period, entry, -, -, -, -, -, rfl⟩
    · rfl
    · rfl
  | hireEmployee _ | changeEmploymentStatus _ | reassignEmployee _ | changeCompensation _
  | clockIn _ | clockOut _ | correctAttendance _ | configure _ => exact hr.elim

/-- **Payroll leaves the tables of hr alone.** -/
theorem exec_hr {r : WorkforceRequest} (hr : r.IsPayroll) (h : r.exec db = .ok db') :
    db'.hr = db.hr := by
  rw [exec_payroll_frame h hr]

/-- A request leaves the shifts alone, or does one of three things to them. -/
inductive AttendanceStep (db : Db) : WorkforceRequest → Db → Prop
  | aside {r : WorkforceRequest} {db' : Db} (same : db'.hr.attendance = db.hr.attendance) :
      AttendanceStep db r db'
  | clockedIn {req : ClockIn} {workDate : Date} {record : Row AttendanceRecord}
      (value : record.val = req.record workDate) :
      AttendanceStep db (.clockIn req)
        { db with hr.attendance := db.hr.attendance ++ [record] }
  | clockedOut {req : ClockOut} {record closed : Row AttendanceRecord}
      (row : db.hr.attendance[req.attendanceRecordId]? = some record)
      (opened : record.val.status = .opened)
      (value : closed.val = { record.val with
        clockOutAt := some req.clockOutAt
        status := .closed
        updatedAt := some req.startedAt }) :
      AttendanceStep db (.clockOut req)
        { db with hr.attendance := db.hr.attendance.set req.attendanceRecordId closed }
  | corrected {req : CorrectAttendance} {original voided record : Row AttendanceRecord}
      {workDate : Date} (row : db.hr.attendance[req.attendanceRecordId]? = some original)
      (live : original.val.status ≠ .voided)
      (day : resolveWorkDate (db.hr.storeClocks original.val.storeId) req.newClockInAt
        = .ok workDate)
      (voided_value : voided.val = { original.val with
        status := .voided
        updatedAt := some req.startedAt })
      (value : record.val = req.record original.val workDate) :
      AttendanceStep db (.correctAttendance req)
        { db with
          hr.attendance := db.hr.attendance.set req.attendanceRecordId voided ++ [record] }

/-- **Every request does one of these to the shifts.** -/
theorem exec_attendanceStep {r : WorkforceRequest} (h : r.exec db = .ok db') :
    AttendanceStep db r db' := by
  by_cases hpay : r.IsPayroll
  · exact .aside (by rw [exec_hr hpay h])
  -- three of the requests are about shifts; all others leave them
  · cases r with
    | hireEmployee req =>
      obtain ⟨statuses, assignments, -, -, rfl⟩ := hireEmployee_ok h
      exact .aside rfl
    | changeEmploymentStatus req =>
      obtain ⟨⟨statuses, rfl⟩, -⟩ := changeEmploymentStatus_ok h
      exact .aside rfl
    | reassignEmployee req =>
      obtain ⟨⟨assignments, rfl⟩, -⟩ := reassignEmployee_ok h
      exact .aside rfl
    | changeCompensation req =>
      obtain ⟨⟨compensations, rfl⟩, -⟩ := changeCompensation_ok h
      exact .aside rfl
    | clockIn req =>
      obtain ⟨workDate, record, hrecord, rfl⟩ := clockIn_ok h
      exact .clockedIn hrecord
    | clockOut req =>
      obtain ⟨record, closed, hrow, hopen, hclosed, rfl⟩ := clockOut_ok h
      exact .clockedOut hrow hopen hclosed
    | correctAttendance req =>
      obtain ⟨original, voided, record, workDate, hrow, hlive, hday, hvoided, hrecord, rfl⟩ :=
        correctAttendance_ok h
      exact .corrected hrow hlive hday hvoided hrecord
    | configure req =>
      cases h
      exact .aside rfl
    | createPayrollPeriod _ | openPayrollPeriod _ | calculatePayrollPeriod _
    | approvePayrollPeriod _ | cancelPayrollPeriod _ | postPayrollPeriod _
    | reversePayrollPeriod _ => exact absurd trivial hpay

/-! ### A small company -/

/-- Two stores, in which nobody works yet. -/
def newShops : Db where
  master := { stores := [⟨true, none⟩, ⟨true, none⟩] }
  stock := { products := [] }

/-- The first employee is hired for a store, from day 0 on. -/
def hireFor (storeId : ℕ) : WorkforceRequest :=
  .hireEmployee {
    employeeNumber := "E-1"
    hireDate := 0
    assignment := ⟨storeId, none, none, none⟩ }

/-- The first employee is paid 3000 a period, from day 0 on. -/
def paySalary : WorkforceRequest :=
  .changeCompensation {
    employeeId := 0
    effectiveFrom := 0
    compensation := ⟨.salary, 3000, false, "USD"⟩ }

/-- The first employee is paid 20 an hour, from day 0 on. -/
def payByTheHour : WorkforceRequest :=
  .changeCompensation {
    employeeId := 0
    effectiveFrom := 0
    compensation := ⟨.hourly, 20, false, "USD"⟩ }

/-- The hour of a day as an instant, in microseconds. -/
def atHour (d : Date) (hour : ℤ) : Instant := d * 86400000000 + hour * 3600000000

/-- The first employee begins a shift at eight. -/
def beginShift (storeId : ℕ) (d : Date) : WorkforceRequest :=
  .clockIn { employeeId := 0, storeId, clockInAt := atHour d 8 }

/-- A shift ends at four in the afternoon. -/
def endShift (attendanceRecordId : ℕ) (d : Date) : WorkforceRequest :=
  .clockOut { attendanceRecordId, clockOutAt := atHour d 16, startedAt := atHour d 16 }

/-- A period is created and opened. -/
def openedFor (payrollPeriodId storeId : ℕ) (periodStart periodEnd : Date) :
    List WorkforceRequest :=
  [.createPayrollPeriod { storeId, periodStart, periodEnd, payDate := periodEnd },
    .openPayrollPeriod { payrollPeriodId, actorId := some 0 }]

/-- A period is calculated, by the first user and at some time. -/
def calculateAt (payrollPeriodId : ℕ) (now : Instant) : WorkforceRequest :=
  .calculatePayrollPeriod { payrollPeriodId, actorId := some 0, now }

/-- A period is approved, by the first user and at some time. -/
def approveAt (payrollPeriodId : ℕ) (now : Instant) : WorkforceRequest :=
  .approvePayrollPeriod { payrollPeriodId, actorId := some 0, now }

/-- A period is posted, by the first user. -/
def postFor (payrollPeriodId : ℕ) : WorkforceRequest :=
  .postPayrollPeriod { payrollPeriodId, actorId := some 0 }

/-- A period is reversed on day forty, by the first user. -/
def reverseFor (payrollPeriodId : ℕ) : WorkforceRequest :=
  .reversePayrollPeriod { payrollPeriodId, actorId := some 0, reason := "wrong", today := 40 }

/-- The requests are made one after the other. -/
def WorkforceRequest.execAll (db : Db) (requests : List WorkforceRequest) : Result Db :=
  requests.foldlM (fun db r => r.exec db) db

end GroceryErp
