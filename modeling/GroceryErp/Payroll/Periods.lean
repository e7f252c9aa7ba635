import GroceryErp.Accounting.PayrollPostings
import GroceryErp.Payroll.Calculation

/-!
# Payroll periods

A period is one store's payroll for a range of days.  It is opened, calculated as often as
wanted, approved and posted; up to then it can be cancelled.  A reversal is a row and an
entry of its own, the period stays posted.

## Main definitions

* `createPayrollPeriod`, `openPayrollPeriod`, `calculatePayrollPeriod`,
  `approvePayrollPeriod`, `cancelPayrollPeriod`, `postPayrollPeriod`,
  `reversePayrollPeriod`.
* `StaleAttendance` — what the approval looks for.
* `payrollGlReconciliation` — the report that sets the books against the periods.

## Main results

* `calculatePayrollPeriod_ok` and its like — what each request has done.

## References

`backend/app/modules/payroll/service.py`, `backend/app/modules/reports/service.py`.
-/

namespace GroceryErp

open Outcome Readings Rows

variable {db db' : Db}

/-- `_lock_payroll_period`: requests on one period wait for each other on its row. -/
def lockPayrollPeriod (db : Db) (payrollPeriodId : ℕ) : Result (Row PayrollPeriod) :=
  orRaise db.payroll.periods[payrollPeriodId]? .notFound

/-- The period is written over, in the row that it was locked in. -/
def Db.setPayrollPeriod (db : Db) (payrollPeriodId : ℕ) (period : Row PayrollPeriod) : Db :=
  { db with payroll.periods := db.payroll.periods.set payrollPeriodId period }

/-! ### Creating -/

structure CreatePayrollPeriod where
  storeId : ℕ
  periodStart : Date
  periodEnd : Date
  payDate : Date
  callerStoreId : Option ℕ := none

/-- `create_payroll_period`.  Only the very same range is refused twice. -/
def createPayrollPeriod (db : Db) (req : CreatePayrollPeriod) : Result Db := do
  enforceStoreAccess req.callerStoreId req.storeId
  raiseIf (req.periodEnd < req.periodStart) (.validation .invalidPeriodRange)
  raiseIf (req.payDate < req.periodEnd) (.validation .invalidPayDate)
  let period ← onIntegrityError
    (do
      raiseIf (db.master.stores[req.storeId]? = none) (.integrity .fkStores)
      checkUnique (∃ p ∈ db.payroll.periods, p.val.storeId = req.storeId ∧
        p.val.periodStart = req.periodStart ∧ p.val.periodEnd = req.periodEnd)
        .uqPayrollPeriodsStoreRange
      flush
        { storeId := req.storeId
          periodStart := req.periodStart
          periodEnd := req.periodEnd
          payDate := req.payDate : PayrollPeriod })
    (.conflict .duplicatePayrollPeriod)
  return { db with payroll.periods := db.payroll.periods ++ [period] }

theorem createPayrollPeriod_ok {req : CreatePayrollPeriod}
    (h : createPayrollPeriod db req = .ok db') :
    ∃ period : Row PayrollPeriod,
      period.val =
        { storeId := req.storeId
          periodStart := req.periodStart
          periodEnd := req.periodEnd
          payDate := req.payDate } ∧
      (¬∃ p ∈ db.payroll.periods, p.val.storeId = req.storeId ∧
        p.val.periodStart = req.periodStart ∧ p.val.periodEnd = req.periodEnd) ∧
      db' = { db with payroll.periods := db.payroll.periods ++ [period] } := by
  unfold createPayrollPeriod at h
  simp only [↓check_bind_eq_ok, bind_eq_ok, pure_eq_ok, onIntegrityError_eq_ok, checkUnique_eq_ok,
    flush_eq_ok] at h
  obtain ⟨-, -, -, period, ⟨-, hnew, hperiod⟩, rfl⟩ := h
  exact ⟨period, hperiod, hnew, rfl⟩

/-! ### Opening and cancelling -/

/-- A request that names a period and nothing else. -/
structure PayrollPeriodRequest where
  payrollPeriodId : ℕ
  actorId : Option ℕ
  callerStoreId : Option ℕ := none

/-- `open_payroll_period`: a draft is opened; a period that is open stays so, and the request
succeeds. -/
def openPayrollPeriod (db : Db) (req : PayrollPeriodRequest) : Result Db := do
  let period ← lockPayrollPeriod db req.payrollPeriodId
  enforceStoreAccess req.callerStoreId period.val.storeId
  if period.val.status = .opened then return db
  else do
    raiseIf (period.val.status ≠ .draft) (.conflict .invalidPeriodState)
    let opened ← flush { period.val with status := .opened }
    return db.setPayrollPeriod req.payrollPeriodId opened

/-- What an update of a period has done: nothing, or it has written the row over. -/
def Updated (db db' : Db) (payrollPeriodId : ℕ) (become : PayrollPeriod → PayrollPeriod → Prop) :
    Prop :=
  db' = db ∨ ∃ period period' : Row PayrollPeriod,
    db.payroll.periods[payrollPeriodId]? = some period ∧ become period.val period'.val ∧
    db' = db.setPayrollPeriod payrollPeriodId period'

theorem openPayrollPeriod_ok {req : PayrollPeriodRequest}
    (h : openPayrollPeriod db req = .ok db') :
    Updated db db' req.payrollPeriodId fun p p' =>
      p.status = .draft ∧ p' = { p with status := .opened } := by
  unfold openPayrollPeriod lockPayrollPeriod at h
  simp only [↓check_bind_eq_ok, bind_eq_ok, orRaise_eq_ok] at h
  obtain ⟨period, hrow, -, h⟩ := h
  split at h
  · rw [pure_eq_ok] at h
    exact .inl h.symm
  · simp only [↓check_bind_eq_ok, bind_eq_ok, raiseIf_eq_ok, flush_eq_ok, pure_eq_ok, not_not] at h
    obtain ⟨hdraft, opened, hopened, rfl⟩ := h
    exact .inr ⟨period, opened, hrow, ⟨hdraft, hopened⟩, rfl⟩

structure CancelPayrollPeriod where
  payrollPeriodId : ℕ
  reason : String
  callerStoreId : Option ℕ := none

/-- `_CANCELLABLE_STATUSES`: every status before the posting. -/
def PayrollPeriodStatus.Cancellable (s : PayrollPeriodStatus) : Prop :=
  s = .draft ∨ s = .opened ∨ s = .calculated ∨ s = .approved

instance (s : PayrollPeriodStatus) : Decidable s.Cancellable :=
  inferInstanceAs (Decidable (_ ∨ _ ∨ _ ∨ _))

/-- `cancel_payroll_period`: a period that has not been posted is given up, with a reason. -/
def cancelPayrollPeriod (db : Db) (req : CancelPayrollPeriod) : Result Db := do
  raiseIf (isBlank req.reason) (.validation .cancellationReasonRequired)
  let period ← lockPayrollPeriod db req.payrollPeriodId
  enforceStoreAccess req.callerStoreId period.val.storeId
  if period.val.status = .cancelled then return db
  else do
    raiseIf (¬period.val.status.Cancellable) (.conflict .invalidPeriodState)
    let cancelled ← flush { period.val with status := .cancelled }
    return db.setPayrollPeriod req.payrollPeriodId cancelled

theorem cancelPayrollPeriod_ok {req : CancelPayrollPeriod}
    (h : cancelPayrollPeriod db req = .ok db') :
    Updated db db' req.payrollPeriodId fun p p' =>
      p.status.Cancellable ∧ p' = { p with status := .cancelled } := by
  unfold cancelPayrollPeriod lockPayrollPeriod at h
  simp only [↓check_bind_eq_ok, bind_eq_ok, orRaise_eq_ok] at h
  obtain ⟨-, period, hrow, -, h⟩ := h
  split at h
  · rw [pure_eq_ok] at h
    exact .inl h.symm
  · simp only [↓check_bind_eq_ok, bind_eq_ok, raiseIf_eq_ok, flush_eq_ok, pure_eq_ok, not_not] at h
    obtain ⟨hlive, cancelled, hcancelled, rfl⟩ := h
    exact .inr ⟨period, cancelled, hrow, ⟨hlive, hcancelled⟩, rfl⟩

/-! ### Approving -/

/-- A shift of the store and range has been updated after the calculation.  A shift that
has only been inserted since has no `updated_at`. -/
def StaleAttendance (db : Db) (period : PayrollPeriod) (calculatedAt : Instant) : Prop :=
  ∃ r ∈ db.hr.attendance, r.val.storeId = period.storeId ∧
    period.periodStart ≤ r.val.workDate ∧ r.val.workDate ≤ period.periodEnd ∧
    ∃ t ∈ r.val.updatedAt, calculatedAt < t

instance (db : Db) (period : PayrollPeriod) (t : Instant) :
    Decidable (StaleAttendance db period t) := inferInstanceAs (Decidable (∃ _ ∈ _, _))

structure ApprovePayrollPeriod extends PayrollPeriodRequest where
  now : Instant

/-- `approve_payroll_period`: no attendance of the period may have been touched since the
calculation. -/
def approvePayrollPeriod (db : Db) (req : ApprovePayrollPeriod) : Result Db := do
  let period ← lockPayrollPeriod db req.payrollPeriodId
  enforceStoreAccess req.callerStoreId period.val.storeId
  if period.val.status = .approved then return db
  else do
    raiseIf (period.val.status ≠ .calculated) (.conflict .invalidPeriodState)
    raiseIf (req.actorId = none) (.validation .actorRequired)
    let calculatedAt ← orRaise period.val.calculatedAt (.conflict .missingCalculationTimestamp)
    raiseIf (StaleAttendance db period.val calculatedAt) (.conflict .staleCalculation)
    let approved ← flush { period.val with
      status := .approved
      approvedBy := req.actorId
      approvedAt := some req.now }
    return db.setPayrollPeriod req.payrollPeriodId approved

theorem approvePayrollPeriod_ok {req : ApprovePayrollPeriod}
    (h : approvePayrollPeriod db req = .ok db') :
    Updated db db' req.payrollPeriodId fun p p' =>
      p.status = .calculated ∧
        (∃ calculatedAt ∈ p.calculatedAt, ¬StaleAttendance db p calculatedAt) ∧
        p' = { p with
          status := .approved
          approvedBy := req.actorId
          approvedAt := some req.now } := by
  unfold approvePayrollPeriod lockPayrollPeriod at h
  simp only [↓check_bind_eq_ok, bind_eq_ok, orRaise_eq_ok] at h
  obtain ⟨period, hrow, -, h⟩ := h
  split at h
  · rw [pure_eq_ok] at h
    exact .inl h.symm
  · simp only [↓check_bind_eq_ok, bind_eq_ok, raiseIf_eq_ok, orRaise_eq_ok, flush_eq_ok,
      pure_eq_ok, not_not] at h
    obtain ⟨hcalculated, -, calculatedAt, hat, hfresh, approved, happroved, rfl⟩ := h
    exact .inr ⟨period, approved, hrow, ⟨hcalculated, ⟨calculatedAt, hat, hfresh⟩, happroved⟩,
      rfl⟩

/-! ### Calculating -/

structure CalculatePayrollPeriod extends PayrollPeriodRequest where
  clientTransactionId : Option String := none
  /-- When the results are written. -/
  now : Instant

/-- The request is the one the period was last calculated for. -/
def CalculatePayrollPeriod.Replayed (db : Db) (req : CalculatePayrollPeriod) : Prop :=
  ∃ key ∈ req.clientTransactionId, ∃ p ∈ db.payroll.periods[req.payrollPeriodId]?,
    p.val.calculationClientTransactionId = some key

instance (db : Db) (req : CalculatePayrollPeriod) : Decidable (req.Replayed db) :=
  inferInstanceAs (Decidable (∃ _ ∈ req.clientTransactionId, _))

/-- `_CALCULABLE_STATUSES`: an open period, and a calculated one that is calculated anew. -/
def PayrollPeriodStatus.Calculable (s : PayrollPeriodStatus) : Prop :=
  s = .opened ∨ s = .calculated

instance (s : PayrollPeriodStatus) : Decidable s.Calculable := inferInstanceAs (Decidable (_ ∨ _))

/-- The period is locked and checked; a request made before leaves nothing to do. -/
def loadForCalculation (db : Db) (req : CalculatePayrollPeriod) :
    Result (Option (Row PayrollPeriod)) := do
  raiseIf (req.actorId = none) (.validation .actorRequired)
  if req.Replayed db then return none
  else do
    let period ← lockPayrollPeriod db req.payrollPeriodId
    enforceStoreAccess req.callerStoreId period.val.storeId
    raiseIf (¬period.val.status.Calculable) (.conflict .invalidPeriodState)
    return some period

/-- The period once it is calculated. -/
def CalculatePayrollPeriod.calculated (req : CalculatePayrollPeriod) (period : PayrollPeriod)
    (totals : PayrollTotals) : PayrollPeriod :=
  { period with
    status := .calculated
    calculatedBy := req.actorId
    calculatedAt := some req.now
    calculationClientTransactionId := req.clientTransactionId
    totalGross := numeric 2 totals.gross
    totalDeductions := numeric 2 totals.deductions
    totalEmployerContributions := numeric 2 totals.employerContributions
    totalNetPay := numeric 2 totals.netPay }

/-- The results of the period are replaced, and its totals written.  The lines of the last
result go with the same flush, whose error has the request for its cause. -/
def finishCalculation (db : Db) (req : CalculatePayrollPeriod) (period : Row PayrollPeriod)
    (drafts : List PayrollEmployeeResult) : Result Db := do
  let written ← onIntegrityError
    (do
      let results ← drafts.mapM fun r => flush r.stored
      checkUnique (∃ key ∈ req.clientTransactionId, ∃ p ∈ withKeys db.payroll.periods,
        p.1 ≠ req.payrollPeriodId ∧ p.2.val.calculationClientTransactionId = some key)
        .uqPayrollPeriodsClientTransaction
      let calculated ← flush (req.calculated period.val (payrollTotals drafts))
      return (results, calculated))
    (.conflict .duplicateCalculationRequest)
  return { db with
    payroll.periods := db.payroll.periods.set req.payrollPeriodId written.2
    payroll.results := db.payroll.results.filter (·.val.payrollPeriodId ≠ req.payrollPeriodId)
      ++ written.1 }

/-- `calculate_payroll_period`: the results of an earlier calculation are replaced by those of this
one. -/
def calculatePayrollPeriod (db : Db) (req : CalculatePayrollPeriod) : Result Db := do
  let loaded ← loadForCalculation db req
  match loaded with
  | none => return db
  | some period => do
    let drafts ← (calculation req.payrollPeriodId period.val).eval db
    finishCalculation db req period drafts

/-- The period as it is loaded, what the queries of its calculation have come to, and what
is written. -/
structure Calculated (db db' : Db) (req : CalculatePayrollPeriod) (period : Row PayrollPeriod)
    (drafts : List PayrollEmployeeResult) : Prop where
  row : db.payroll.periods[req.payrollPeriodId]? = some period
  calculable : period.val.status.Calculable
  written : ∃ (period' : Row PayrollPeriod) (results : List (Row PayrollEmployeeResult)),
    period'.val = req.calculated period.val (payrollTotals drafts) ∧
    results.map Subtype.val = drafts.map PayrollEmployeeResult.stored ∧
    db' = { db with
      payroll.periods := db.payroll.periods.set req.payrollPeriodId period'
      payroll.results := db.payroll.results.filter (·.val.payrollPeriodId ≠ req.payrollPeriodId)
        ++ results }

theorem loadForCalculation_eq_some {req : CalculatePayrollPeriod} {period : Row PayrollPeriod}
    (h : loadForCalculation db req = .ok (some period)) :
    db.payroll.periods[req.payrollPeriodId]? = some period ∧ period.val.status.Calculable ∧
      ¬req.Replayed db := by
  unfold loadForCalculation at h
  rw [check_bind_eq_ok] at h
  obtain ⟨-, h⟩ := h
  split at h
  · cases h
  · next hnew =>
    unfold lockPayrollPeriod at h
    simp only [↓check_bind_eq_ok, bind_eq_ok, orRaise_eq_ok, raiseIf_eq_ok, pure_eq_ok, not_not,
      Option.some.injEq] at h
    obtain ⟨period, hrow, -, hcalculable, rfl⟩ := h
    exact ⟨hrow, hcalculable, hnew⟩

theorem finishCalculation_ok {req : CalculatePayrollPeriod} {period : Row PayrollPeriod}
    {drafts : List PayrollEmployeeResult} (h : finishCalculation db req period drafts = .ok db') :
    ∃ (period' : Row PayrollPeriod) (results : List (Row PayrollEmployeeResult)),
      period'.val = req.calculated period.val (payrollTotals drafts) ∧
      results.map Subtype.val = drafts.map PayrollEmployeeResult.stored ∧
      db' = { db with
        payroll.periods := db.payroll.periods.set req.payrollPeriodId period'
        payroll.results := db.payroll.results.filter (·.val.payrollPeriodId ≠ req.payrollPeriodId)
          ++ results } := by
  unfold finishCalculation at h
  simp only [↓check_bind_eq_ok, bind_eq_ok, onIntegrityError_eq_ok, flush_eq_ok, pure_eq_ok] at h
  obtain ⟨-, ⟨results, hresults, -, period', hperiod, rfl⟩, rfl⟩ := h
  exact ⟨period', results, hperiod, map_of_mapM hresults fun _ _ hok => flush_eq_ok.mp hok, rfl⟩

/-- **What a calculation has done**: nothing, where it was done before, or it has replaced the
results of the period by those its queries come to. -/
theorem calculatePayrollPeriod_ok {req : CalculatePayrollPeriod}
    (h : calculatePayrollPeriod db req = .ok db') :
    (req.Replayed db ∧ db' = db) ∨ (¬req.Replayed db ∧ ∃ period drafts,
      (calculation req.payrollPeriodId period.val).eval db = .ok drafts ∧
      Calculated db db' req period drafts) := by
  unfold calculatePayrollPeriod at h
  rw [bind_eq_ok] at h
  obtain ⟨loaded, hload, h⟩ := h
  cases loaded with
  | none =>
    rw [pure_eq_ok] at h
    refine .inl ⟨?_, h.symm⟩
    unfold loadForCalculation at hload
    rw [check_bind_eq_ok] at hload
    by_contra hnew
    rw [if_neg hnew] at hload
    simp only [↓check_bind_eq_ok, bind_eq_ok, pure_eq_ok, reduceCtorEq, and_false,
      exists_false] at hload
  | some period =>
    dsimp only at h
    rw [bind_eq_ok] at h
    obtain ⟨drafts, hdrafts, h⟩ := h
    obtain ⟨hrow, hcalculable, hnew⟩ := loadForCalculation_eq_some hload
    exact .inr ⟨hnew, period, drafts, hdrafts, hrow, hcalculable, finishCalculation_ok h⟩

/-! ### Posting -/

structure PostPayrollPeriod extends PayrollPeriodRequest where
  clientTransactionId : Option String := none

/-- `list_payroll_employee_results`; the order is that of the employees. -/
def listPayrollEmployeeResults (db : Db) (payrollPeriodId : ℕ) :
    List (Row PayrollEmployeeResult) :=
  Effective.sortedBy (·.val.employeeId)
    (db.payroll.results.filter (·.val.payrollPeriodId = payrollPeriodId))

theorem PayrollEmployeeResult.Checks.final {r : PayrollEmployeeResult} (h : r.Checks) :
    PayrollEmployeeResult.Checks { r with status := .final } where
  head := ⟨h.head.regular_hours_nonneg, h.head.overtime_hours_nonneg, h.head.gross_pay_nonneg,
    h.head.total_deductions_nonneg, h.head.net_pay_nonneg, h.head.net_math⟩
  earning_lines := h.earning_lines
  deduction_lines_nonneg := h.deduction_lines_nonneg

/-- A result that is final, as a posting makes all results of its period. -/
def finalResult (r : Row PayrollEmployeeResult) : Row PayrollEmployeeResult :=
  ⟨{ r.val with status := .final }, PayrollEmployeeResult.Checks.final r.property⟩

/-- The period once it is posted. -/
def PostPayrollPeriod.posted (req : PostPayrollPeriod) (period : PayrollPeriod)
    (journalEntryId : ℕ) : PayrollPeriod :=
  { period with
    status := .posted
    journalEntryId := some journalEntryId
    postedBy := req.actorId
    postingClientTransactionId := req.clientTransactionId }

/-- `post_payroll_period`: an approved period is posted once; a retry with its key, or of a posted
period, changes nothing. -/
def postPayrollPeriod (db : Db) (req : PostPayrollPeriod) : Result Db :=
  if ∃ key ∈ req.clientTransactionId, ∃ p ∈ db.payroll.periods[req.payrollPeriodId]?,
      p.val.postingClientTransactionId = some key then return db
  else do
    let period ← lockPayrollPeriod db req.payrollPeriodId
    enforceStoreAccess req.callerStoreId period.val.storeId
    if period.val.status = .posted then return db
    else do
      raiseIf (period.val.status ≠ .approved) (.conflict .invalidPeriodState)
      raiseIf (req.actorId = none) (.validation .actorRequired)
      let results := listPayrollEmployeeResults db req.payrollPeriodId
      raiseIf (results = []) (.conflict .noCalculatedResults)
      let db₁ ← postPayrollJournal db req.payrollPeriodId period.val (results.map Subtype.val)
      let posted ← onIntegrityError
        (do
          checkUnique (∃ key ∈ req.clientTransactionId, ∃ p ∈ withKeys db.payroll.periods,
            p.1 ≠ req.payrollPeriodId ∧ p.2.val.postingClientTransactionId = some key)
            .uqPayrollPeriodsClientTransaction
          flush (req.posted period.val db.ledger.entries.length))
        (.conflict .duplicatePostingRequest)
      return { db₁ with
        payroll.periods := db₁.payroll.periods.set req.payrollPeriodId posted
        payroll.results := db₁.payroll.results.map fun r =>
          if r.val.payrollPeriodId = req.payrollPeriodId then finalResult r else r }

/-- The results of a period, in the order they were stored. -/
def resultsOf (db : Db) (payrollPeriodId : ℕ) : List (Row PayrollEmployeeResult) :=
  db.payroll.results.filter (·.val.payrollPeriodId = payrollPeriodId)

/-- What the results of a period come to. -/
def totalsOf (db : Db) (payrollPeriodId : ℕ) : PayrollTotals :=
  payrollTotals ((resultsOf db payrollPeriodId).map Subtype.val)

/-- The sums do not depend on the order of the results. -/
theorem payrollTotals_listPayrollEmployeeResults (db : Db) (payrollPeriodId : ℕ) :
    payrollTotals ((listPayrollEmployeeResults db payrollPeriodId).map Subtype.val)
      = totalsOf db payrollPeriodId := by
  have hperm : ((listPayrollEmployeeResults db payrollPeriodId).map Subtype.val).Perm
      ((resultsOf db payrollPeriodId).map Subtype.val) :=
    (Effective.perm_sortedBy _ _).map _
  unfold totalsOf payrollTotals
  rw [(hperm.map _).sum_eq, (hperm.map _).sum_eq, (hperm.map _).sum_eq, (hperm.map _).sum_eq]

/-- **What a posting has done**: nothing, or it has posted the sums of the results, made them
final, and the period posted. -/
theorem postPayrollPeriod_ok {req : PostPayrollPeriod} (h : postPayrollPeriod db req = .ok db') :
    db' = db ∨ ∃ (period posted : Row PayrollPeriod) (entry : Row JournalEntry),
      db.payroll.periods[req.payrollPeriodId]? = some period ∧ period.val.status = .approved ∧
      posted.val = req.posted period.val db.ledger.entries.length ∧
      Unposted db .payrollPosting req.payrollPeriodId ∧
      entry.val = ⟨period.val.storeId, period.val.payDate, .payrollPosting, req.payrollPeriodId,
        (payrollJournalLines (totalsOf db req.payrollPeriodId) false).map storedLine⟩ ∧
      db' = { db with
        ledger.entries := db.ledger.entries ++ [entry]
        payroll.periods := db.payroll.periods.set req.payrollPeriodId posted
        payroll.results := db.payroll.results.map fun r =>
          if r.val.payrollPeriodId = req.payrollPeriodId then finalResult r else r } := by
  unfold postPayrollPeriod at h
  split at h
  · rw [pure_eq_ok] at h
    exact .inl h.symm
  · unfold lockPayrollPeriod postPayrollJournal at h
    simp only [↓check_bind_eq_ok, bind_eq_ok, orRaise_eq_ok] at h
    obtain ⟨period, hrow, -, h⟩ := h
    split at h
    · rw [pure_eq_ok] at h
      exact .inl h.symm
    · simp only [↓check_bind_eq_ok, bind_eq_ok, raiseIf_eq_ok, onIntegrityError_eq_ok, flush_eq_ok,
        pure_eq_ok, not_not, payrollTotals_listPayrollEmployeeResults] at h
      obtain ⟨happroved, -, -, db₁, hpost, posted, ⟨-, hposted⟩, rfl⟩ := h
      obtain ⟨-, -, hnew, entry, hentry, rfl⟩ := postJournal_eq_ok.mp hpost
      exact .inr ⟨period, posted, entry, hrow, happroved, hposted, hnew, hentry, rfl⟩

/-! ### Reversing -/

structure ReversePayrollPeriod extends PayrollPeriodRequest where
  reason : String
  today : Date

/-- A reversal row references the period. -/
def Reversed (db : Db) (payrollPeriodId : ℕ) : Prop :=
  ∃ r ∈ db.payroll.reversals, r.payrollPeriodId = payrollPeriodId

instance (db : Db) (payrollPeriodId : ℕ) : Decidable (Reversed db payrollPeriodId) :=
  inferInstanceAs (Decidable (∃ _ ∈ _, _))

/-- `reverse_payroll_period`.  A period that is reversed already is left as it is, so the
unique key of the reversals is never met. -/
def reversePayrollPeriod (db : Db) (req : ReversePayrollPeriod) : Result Db := do
  raiseIf (isBlank req.reason) (.validation .reversalReasonRequired)
  let period ← lockPayrollPeriod db req.payrollPeriodId
  enforceStoreAccess req.callerStoreId period.val.storeId
  raiseIf (period.val.status ≠ .posted) (.conflict .invalidPeriodState)
  raiseIf (req.actorId = none) (.validation .actorRequired)
  if Reversed db req.payrollPeriodId then return db
  else do
    let results := listPayrollEmployeeResults db req.payrollPeriodId
    let db₁ ← postPayrollReversalJournal db req.payrollPeriodId period.val
      (results.map Subtype.val) req.today
    return { db₁ with
      payroll.reversals :=
        db₁.payroll.reversals ++ [⟨req.payrollPeriodId, db.ledger.entries.length⟩] }

/-- **What a reversal has done**: nothing, or it has posted the swapped sums of the results,
and recorded it. -/
theorem reversePayrollPeriod_ok {req : ReversePayrollPeriod}
    (h : reversePayrollPeriod db req = .ok db') :
    db' = db ∨ ∃ (period : Row PayrollPeriod) (entry : Row JournalEntry),
      db.payroll.periods[req.payrollPeriodId]? = some period ∧ period.val.status = .posted ∧
      ¬Reversed db req.payrollPeriodId ∧
      Unposted db .payrollReversal req.payrollPeriodId ∧
      entry.val = ⟨period.val.storeId, req.today, .payrollReversal, req.payrollPeriodId,
        (payrollJournalLines (totalsOf db req.payrollPeriodId) true).map storedLine⟩ ∧
      db' = { db with
        ledger.entries := db.ledger.entries ++ [entry]
        payroll.reversals :=
          db.payroll.reversals ++ [⟨req.payrollPeriodId, db.ledger.entries.length⟩] } := by
  unfold reversePayrollPeriod lockPayrollPeriod at h
  simp only [↓check_bind_eq_ok, bind_eq_ok, orRaise_eq_ok, raiseIf_eq_ok, not_not] at h
  obtain ⟨-, period, hrow, -, hposted, -, h⟩ := h
  split at h
  · rw [pure_eq_ok] at h
    exact .inl h.symm
  · next hnew =>
    unfold postPayrollReversalJournal at h
    simp only [bind_eq_ok, pure_eq_ok, payrollTotals_listPayrollEmployeeResults] at h
    obtain ⟨db₁, hpost, rfl⟩ := h
    obtain ⟨-, -, hunposted, entry, hentry, rfl⟩ := postJournal_eq_ok.mp hpost
    exact .inr ⟨period, entry, hrow, hposted, hnew, hunposted, hentry, rfl⟩

/-! ### The report -/

/-- `GlReconciliationRow`: the ledger against the results, and the difference. -/
structure GlReconciliationRow where
  glBalance : ℚ
  operationalValue : ℚ
  discrepancy : ℚ
  deriving DecidableEq

/-- Whether a row of the store is asked for. -/
def InStores (storeIds : Option (List ℕ)) (storeId : ℕ) : Prop := ∀ ids ∈ storeIds, storeId ∈ ids

instance (storeIds : Option (List ℕ)) (storeId : ℕ) : Decidable (InStores storeIds storeId) :=
  inferInstanceAs (Decidable (∀ _ ∈ storeIds, _))

/-- `payroll_gl_reconciliation`: the net credit of Payroll Payable, and the net pay of the
posted periods. -/
def payrollGlReconciliation (db : Db) (storeIds : Option (List ℕ)) : GlReconciliationRow :=
  let glBalance :=
    -sumWhere (fun e => InStores storeIds e.val.storeId) (entryNet .payrollPayable)
      db.ledger.entries
  let operational :=
    sumWhere (fun p => p.val.status = .posted ∧ InStores storeIds p.val.storeId)
      (·.val.totalNetPay) db.payroll.periods
  { glBalance, operationalValue := operational, discrepancy := glBalance - operational }

end GroceryErp
