import GroceryErp.Lib.Transactions
import GroceryErp.Payroll.Traces

/-!
# Approvals of stale calculations

A calculation puts its queries one after the other while others commit, and its period waits
for the approval while others commit.  The approval asks for shifts that have been updated
since, and for nothing else.

A session locks the row of its period and holds it until it ends.  What it writes is
committed at once; the queries of a calculation do not read what the calculation writes.

## Main definitions

* `Commits` — the tables, those before every commit, and where the last calculation of a
  period began.
* `payrolling` — what a session does next.
* `Undisturbed` — nothing that was committed since the calculation began changes an answer
  to its queries.

## Main results

* `calculatePayrollPeriod_eq_parts`, `approvePayrollPeriod_eq_parts` — with nothing between,
  a session's parts are the request.
* `approvals_are_current` — a period that is approved undisturbed has the results that a new
  calculation would give.

## References

`backend/app/modules/payroll/service.py`, `approve_payroll_period`,
`calculate_payroll_period`.
-/

namespace GroceryErp

open Outcome Readings Rows Runs Transactions

/-! ### A calculation and an approval in parts -/

/-- What a calculation does before it locks the period: it looks its key up. -/
def CalculatePayrollPeriod.GoesOn (db : Db) (req : CalculatePayrollPeriod) : Prop :=
  req.actorId ≠ none ∧ ¬req.Replayed db

instance (db : Db) (req : CalculatePayrollPeriod) : Decidable (req.GoesOn db) :=
  inferInstanceAs (Decidable (_ ∧ _))

/-- The period is locked and checked: the caller may act in its store, and it may be calculated in
its status. -/
def lockForCalculation (db : Db) (req : CalculatePayrollPeriod) : Result (Row PayrollPeriod) := do
  let period ← lockPayrollPeriod db req.payrollPeriodId
  enforceStoreAccess req.callerStoreId period.val.storeId
  raiseIf (¬period.val.status.Calculable) (.conflict .invalidPeriodState)
  return period

/-- **A calculation whose parts follow each other is the request.** -/
theorem calculatePayrollPeriod_eq_parts {db : Db} {req : CalculatePayrollPeriod}
    (h : req.GoesOn db) : calculatePayrollPeriod db req = (do
      let period ← lockForCalculation db req
      let drafts ← (calculation req.payrollPeriodId period.val).eval db
      finishCalculation db req period drafts) := by
  have hload : loadForCalculation db req = (do
      let period ← lockForCalculation db req
      return some period) := by
    unfold loadForCalculation lockForCalculation
    rw [if_neg h.2, raiseIf, if_neg h.1]
    simp only [bind_assoc, pure_bind]
    rfl
  unfold calculatePayrollPeriod
  rw [hload]
  simp only [bind_assoc, pure_bind]

/-- The period is locked, and the caller's store checked; from here on other requests on the period
wait. -/
def lockForApproval (db : Db) (req : ApprovePayrollPeriod) : Result (Row PayrollPeriod) := do
  let period ← lockPayrollPeriod db req.payrollPeriodId
  enforceStoreAccess req.callerStoreId period.val.storeId
  return period

/-- The checks of an approval; a period that is approved passes. -/
def checkApproval (db : Db) (req : ApprovePayrollPeriod) (period : Row PayrollPeriod) :
    Result Unit :=
  if period.val.status = .approved then return ()
  else do
    raiseIf (period.val.status ≠ .calculated) (.conflict .invalidPeriodState)
    raiseIf (req.actorId = none) (.validation .actorRequired)
    let calculatedAt ← orRaise period.val.calculatedAt (.conflict .missingCalculationTimestamp)
    raiseIf (StaleAttendance db period.val calculatedAt) (.conflict .staleCalculation)

/-- What an approval writes, of the period as it was read. -/
def finishApproval (db : Db) (req : ApprovePayrollPeriod) (period : Row PayrollPeriod) :
    Result Db :=
  if period.val.status = .approved then return db
  else do
    let approved ← flush { period.val with
      status := .approved
      approvedBy := req.actorId
      approvedAt := some req.now }
    return db.setPayrollPeriod req.payrollPeriodId approved

/-- **An approval whose parts follow each other is the request.** -/
theorem approvePayrollPeriod_eq_parts (db : Db) (req : ApprovePayrollPeriod) :
    approvePayrollPeriod db req = (do
      let period ← lockForApproval db req
      checkApproval db req period
      finishApproval db req period) := by
  unfold approvePayrollPeriod lockForApproval
  simp only [bind_assoc, pure_bind]
  congr 1
  funext period
  congr 1
  funext _
  unfold checkApproval finishApproval
  by_cases happroved : period.val.status = .approved
  · simp only [happroved, if_true, pure_bind]
  · simp only [happroved, if_false, bind_assoc]

/-! ### Commits -/

/-- The tables, those before each commit, and for a period that is calculated, the number of
commits before its last calculation had the lock. -/
structure Commits where
  db : Db
  past : List Db := []
  began : ℕ → Option ℕ := fun _ => none

namespace Commits

variable (c : Commits)

/-- What was committed from the `n`-th commit on, to the tables as they are. -/
def since (n : ℕ) : List Db := c.past.drop n ++ [c.db]

/-- One more commit, which puts the state before it on record. -/
def commit (db : Db) : Commits := { c with db, past := c.past ++ [c.db] }

variable {c}

theorem since_append {c' : Commits} {n : ℕ} (hpast : c'.past = c.past ++ [c.db])
    (h : n ≤ c.past.length) : c'.since n = c.since n ++ [c'.db] := by
  unfold since
  rw [hpast, List.drop_append_of_le_length h]

end Commits

/-! ### Sessions -/

/-- The period whose row a request locks before it does anything else. -/
def WorkforceRequest.locks : WorkforceRequest → Option ℕ
  | .openPayrollPeriod req => some req.payrollPeriodId
  | .approvePayrollPeriod req => some req.payrollPeriodId
  | .cancelPayrollPeriod req => some req.payrollPeriodId
  | .postPayrollPeriod req => some req.payrollPeriodId
  | .reversePayrollPeriod req => some req.payrollPeriodId
  | .calculatePayrollPeriod req => some req.payrollPeriodId
  | _ => none

/-- How far a session has come with its request. -/
inductive PayrollSession
  | begun (r : WorkforceRequest)
  /-- The row of the period is locked. -/
  | locked (r : WorkforceRequest)
  /-- A calculation has looked its key up. -/
  | lookedUp (req : CalculatePayrollPeriod)
  /-- A calculation has its lock, from the commit `began` on, and this is left of it. -/
  | calculating (req : CalculatePayrollPeriod) (period : Row PayrollPeriod)
      (rest : Reading Db AppError (List PayrollEmployeeResult)) (began : ℕ)
  /-- An approval has its lock. -/
  | approving (req : ApprovePayrollPeriod) (period : Row PayrollPeriod)
  /-- An approval has passed its checks. -/
  | checked (req : ApprovePayrollPeriod) (period : Row PayrollPeriod)

/-- What a session does next.  A request other than a calculation or an approval commits what
it does in the tables it meets. -/
def PayrollSession.next : PayrollSession → Action Commits ℕ PayrollSession
  | .begun (.calculatePayrollPeriod req) => .read fun c =>
      if req.GoesOn c.db then some (.lookedUp req) else none
  | .begun (.approvePayrollPeriod req) => .lock req.payrollPeriodId fun c =>
      (lockForApproval c.db req).toOption.map (.approving req)
  | .begun r =>
    match r.locks with
    | some payrollPeriodId => .lock payrollPeriodId fun _ => some (.locked r)
    | none => .commit fun c => (r.exec c.db).toOption.map c.commit
  | .locked r => .commit fun c => (r.exec c.db).toOption.map c.commit
  | .lookedUp req => .lock req.payrollPeriodId fun c =>
      (lockForCalculation c.db req).toOption.map fun period =>
        .calculating req period (calculation req.payrollPeriodId period.val) c.past.length
  | .calculating req period (.read next) began => .read fun c =>
      some (.calculating req period (next c.db) began)
  | .calculating req period (.done drafts) began => .commit fun c =>
      (finishCalculation c.db req period drafts).toOption.map fun db =>
        { c.commit db with began := Function.update c.began req.payrollPeriodId (some began) }
  | .calculating _ _ (.fail _) _ => .read fun _ => none
  | .approving req period => .read fun c =>
      (checkApproval c.db req period).toOption.map fun _ => .checked req period
  | .checked req period => .commit fun c =>
      (finishApproval c.db req period).toOption.map c.commit

/-- Requests of hr and payroll side by side, each in its own session and with the locks it takes. -/
def payrolling : Program Commits ℕ PayrollSession WorkforceRequest where
  start := .begun
  next := PayrollSession.next

/-! ### Where results come from -/

section

variable {db db' : Db} {c c' : Commits} {i : ℕ} {p p' : PayrollPeriod}

theorem draftResult_yields (i : ℕ) (p : PayrollPeriod) (policy : Option OvertimePolicy)
    (configs : List DeductionConfigInput) (employeeId : ℕ) :
    (draftResult i p policy configs employeeId).Yields
      fun r => r.payrollPeriodId = i ∧ r.status = .draft := by
  unfold draftResult
  refine Reading.yields_bind _ fun segments => ?_
  refine Reading.yields_bind _ fun hours => ?_
  refine Reading.yields_bind _ fun pay => ?_
  refine Reading.yields_bind _ fun lastComp => ?_
  refine Reading.yields_bind _ fun assignment => ?_
  exact Reading.yields_pure ⟨rfl, rfl⟩

/-- Whatever a calculation reads, its results are drafts of its period. -/
theorem calculation_yields (i : ℕ) (p : PayrollPeriod) :
    (calculation i p).Yields
      fun drafts => ∀ r ∈ drafts, r.payrollPeriodId = i ∧ r.status = .draft := by
  have hdrafts : ∀ policy configs previous employeeIds,
      (draftResults i p policy configs previous employeeIds).Yields
        fun drafts => ∀ r ∈ drafts, r.payrollPeriodId = i ∧ r.status = .draft := by
    intro policy configs previous employeeIds
    induction employeeIds generalizing previous with
    | nil => exact Reading.yields_pure (by simp)
    | cons employeeId employeeIds ih =>
      refine (draftResult_yields i p policy configs employeeId).bind fun result hresult => ?_
      refine Reading.yields_bind _ fun _ => ?_
      refine (ih (some result)).bind fun results hresults => Reading.yields_pure ?_
      intro r hr
      rcases List.mem_cons.mp hr with rfl | hr
      · exact hresult
      · exact hresults r hr
  unfold calculation
  refine Reading.yields_bind _ fun policy => ?_
  refine Reading.yields_bind _ fun configs => ?_
  exact Reading.yields_bind _ fun employeeIds => hdrafts policy configs none employeeIds

/-- The results of the period are what its queries came to, in tables that were committed
since its calculation began. -/
def SourcedAt (c : Commits) (i : ℕ) (p : PayrollPeriod) : Prop :=
  ∃ n reads drafts, c.began i = some n ∧ n ≤ c.past.length ∧ reads ⊆ c.since n ∧
    (calculation i p).through reads = .done drafts ∧
    draftsOf c.db i = drafts.map PayrollEmployeeResult.stored

/-- So it is for every period that has results. -/
def Sourced (c : Commits) : Prop :=
  ∀ (i : ℕ) (p : Row PayrollPeriod), c.db.payroll.periods[i]? = some p → p.val.status.HasResults →
    SourcedAt c i p.val

/-- A commit that leaves the results of a period alone. -/
theorem SourcedAt.commit (h : SourcedAt c i p) (hpast : c'.past = c.past ++ [c.db])
    (hbegan : c'.began i = c.began i) (hrange : p.SameRange p')
    (hdrafts : draftsOf c'.db i = draftsOf c.db i) : SourcedAt c' i p' := by
  obtain ⟨n, reads, drafts, hn, hle, hreads, hthrough, hstored⟩ := h
  refine ⟨n, reads, drafts, hbegan.trans hn, ?_, ?_, ?_, hdrafts.trans hstored⟩
  · rw [hpast, List.length_append]
    omega
  · rw [Commits.since_append hpast hle]
    exact fun s hs => List.mem_append_left _ (hreads hs)
  · rw [hrange.calculation, hthrough]

/-- A request that is no calculation leaves the results of every period alone. -/
theorem Sourced.exec {r : WorkforceRequest} (h : Sourced c) (hdone : r.exec c.db = .ok db)
    (hr : ∀ req, r ≠ .calculatePayrollPeriod req) : Sourced (c.commit db) := by
  intro i p' hp' hres
  have hexec : Traced.exec r { db := c.db } = .ok ⟨db, r.sources c.db fun _ => none⟩ :=
    Traced.exec_eq_ok.mpr ⟨hdone, rfl⟩
  cases Traced.exec_period hexec hp' hres with
  | calculated request => exact absurd request (hr _)
  | kept row had same => exact (h i _ row had).commit rfl rfl same.range same.results

/-- What a calculation writes are the results of its queries. -/
theorem Sourced.calculated {req : CalculatePayrollPeriod} {period : Row PayrollPeriod}
    {drafts : List PayrollEmployeeResult} {began : ℕ} {reads : List Db} (h : Sourced c)
    (hbegan : began ≤ c.past.length) (hreads : reads ⊆ c.since began)
    (hthrough : (calculation req.payrollPeriodId period.val).through reads = .done drafts)
    (done : Calculated c.db db req period drafts) :
    Sourced { c.commit db with began := Function.update c.began req.payrollPeriodId (some began) } := by
  have hall := (calculation_yields req.payrollPeriodId period.val).through reads
  rw [hthrough] at hall
  intro i p' hp' hres
  by_cases hi : req.payrollPeriodId = i
  · subst hi
    have hrange : period.val.SameRange p'.val := by
      rw [done.row_after hp']
      exact ⟨rfl, rfl, rfl⟩
    refine ⟨began, reads, drafts, Function.update_self .., ?_, ?_, ?_, done.draftsOf hall⟩
    · change began ≤ (c.past ++ [c.db]).length
      rw [List.length_append]
      omega
    · intro s hs
      change s ∈ (c.commit db).since began
      rw [Commits.since_append rfl hbegan]
      exact List.mem_append_left _ (hreads hs)
    · rw [hrange.calculation, hthrough]
  · obtain ⟨hrow, hresults⟩ := done.others (fun r hr => (hall r hr).1) hi
    refine (h i p' (hrow.symm.trans hp') hres).commit rfl ?_ (.refl _) hresults
    exact Function.update_of_ne (Ne.symm hi) _ _

theorem finishApproval_ok {req : ApprovePayrollPeriod} {period : Row PayrollPeriod}
    (h : finishApproval db req period = .ok db') :
    db' = db ∨ ∃ approved : Row PayrollPeriod, period.val.SameRange approved.val ∧
      db' = db.setPayrollPeriod req.payrollPeriodId approved := by
  unfold finishApproval at h
  split at h
  · rw [pure_eq_ok] at h
    exact .inl h.symm
  · simp only [bind_eq_ok, flush_eq_ok, pure_eq_ok] at h
    obtain ⟨approved, happroved, rfl⟩ := h
    refine .inr ⟨approved, ?_, rfl⟩
    rw [happroved]
    exact ⟨rfl, rfl, rfl⟩

/-- An approval leaves the results of its period alone. -/
theorem Sourced.approved {req : ApprovePayrollPeriod} {period : Row PayrollPeriod}
    (h : Sourced c) (hrow : c.db.payroll.periods[req.payrollPeriodId]? = some period)
    (hhad : period.val.status.HasResults) (hdone : finishApproval c.db req period = .ok db) :
    Sourced (c.commit db) := by
  intro i p' hp' hres
  rcases finishApproval_ok hdone with rfl | ⟨approved, hrange, rfl⟩
  · exact (h i p' hp' hres).commit rfl rfl (.refl _) rfl
  · replace hp' := (getElem?_set_of_some hrow approved i).symm.trans hp'
    split at hp'
    · next hi =>
      subst hi
      obtain rfl := Option.some.inj hp'
      exact (h _ period hrow hhad).commit rfl rfl hrange rfl
    · exact (h i p' hp' hres).commit rfl rfl (.refl _) rfl

end

/-! ### What a session knows -/

/-- An update of one period leaves the rows of the others alone. -/
theorem Updated.row_kept {db db' : Db} {i j : ℕ} {become : PayrollPeriod → PayrollPeriod → Prop}
    (h : Updated db db' j become) (hij : some j ≠ some i) :
    db'.payroll.periods[i]? = db.payroll.periods[i]? := by
  rcases h with rfl | ⟨period, period', hrow, -, rfl⟩
  · rfl
  · exact (getElem?_set_of_some hrow period' i).trans (if_neg fun h => hij (congrArg some h))

/-- A request writes the row of no period but the one it locks. -/
theorem exec_row_kept {r : WorkforceRequest} {db db' : Db} (h : r.exec db = .ok db') {i : ℕ}
    (hi : r.locks ≠ some i) {p : Row PayrollPeriod} (hp : db.payroll.periods[i]? = some p) :
    db'.payroll.periods[i]? = some p := by
  cases r with
  | hireEmployee _ | changeEmploymentStatus _ | reassignEmployee _ | changeCompensation _
  | clockIn _ | clockOut _ | correctAttendance _ | configure _ =>
    rw [(exec_aside h not_false).periods, hp]
  | createPayrollPeriod req =>
    obtain ⟨period, -, -, rfl⟩ := createPayrollPeriod_ok h
    exact getElem?_append_singleton_eq_some.mpr (.inl hp)
  | openPayrollPeriod req => rw [(openPayrollPeriod_ok h).row_kept hi, hp]
  | approvePayrollPeriod req => rw [(approvePayrollPeriod_ok h).row_kept hi, hp]
  | cancelPayrollPeriod req => rw [(cancelPayrollPeriod_ok h).row_kept hi, hp]
  | calculatePayrollPeriod req =>
    rcases calculatePayrollPeriod_ok h with ⟨-, rfl⟩ | ⟨-, period, drafts, heval, done⟩
    · exact hp
    · have hid : req.payrollPeriodId ≠ i := fun hid => hi (congrArg some hid)
      rw [(done.others (fun r hr => (drafts_of_eval heval r hr).1) hid).1, hp]
  | postPayrollPeriod req =>
    rcases postPayrollPeriod_ok h with rfl | ⟨period, posted, entry, hrow, -, -, -, -, rfl⟩
    · exact hp
    · have hid : req.payrollPeriodId ≠ i := fun hid => hi (congrArg some hid)
      exact (getElem?_set_of_some hrow posted i).trans ((if_neg hid).trans hp)
  | reversePayrollPeriod req =>
    rcases reversePayrollPeriod_ok h with rfl | ⟨period, entry, -, -, -, -, -, rfl⟩
    · exact hp
    · exact hp

/-- What a session with the locks `H` knows of the tables. -/
def PayrollSession.Knows (H : ℕ → Prop) (c : Commits) : PayrollSession → Prop
  | .begun _ => True
  | .locked r => (∃ i, r.locks = some i ∧ H i) ∧ ∀ req, r ≠ .calculatePayrollPeriod req
  | .lookedUp _ => True
  | .calculating req period rest began =>
    H req.payrollPeriodId ∧ c.db.payroll.periods[req.payrollPeriodId]? = some period ∧
      period.val.status.Calculable ∧ began ≤ c.past.length ∧
      ∃ reads ⊆ c.since began, (calculation req.payrollPeriodId period.val).through reads = rest
  | .approving req period =>
    H req.payrollPeriodId ∧ c.db.payroll.periods[req.payrollPeriodId]? = some period
  | .checked req period =>
    H req.payrollPeriodId ∧ c.db.payroll.periods[req.payrollPeriodId]? = some period ∧
      period.val.status.HasResults

/-- What the commit of a session with the locks `H` has done. -/
structure PayrollCommit (H : ℕ → Prop) (c c' : Commits) : Prop where
  past : c'.past = c.past ++ [c.db]
  kept : ∀ i p, ¬H i → c.db.payroll.periods[i]? = some p → c'.db.payroll.periods[i]? = some p
  sourced : Sourced c'

section

variable {H : ℕ → Prop} {c c' : Commits}

/-- The commit of a request that is no calculation. -/
theorem payrollCommit_exec {r : WorkforceRequest} {db : Db} (hc : Sourced c)
    (hdone : r.exec c.db = .ok db) (hr : ∀ req, r ≠ .calculatePayrollPeriod req)
    (hlocks : ∀ i, r.locks = some i → H i) : PayrollCommit H c (c.commit db) where
  past := rfl
  kept i _ hi hp := exec_row_kept hdone (fun hlock => hi (hlocks i hlock)) hp
  sourced := hc.exec hdone hr

/-- **What the commit of a session has done.** -/
theorem payrollCommit_of_next {t : PayrollSession} {f : Commits → Option Commits}
    (hc : Sourced c) (ht : t.Knows H c) (hnext : t.next = .commit f) (hdone : f c = some c') :
    PayrollCommit H c c' := by
  cases t with
  -- the requests that take no lock of their own commit in one step
  | begun r =>
    have hr : (∀ req, r ≠ .calculatePayrollPeriod req) ∧ r.locks = none ∧
        f = fun c => (r.exec c.db).toOption.map c.commit := by
      cases r <;> simp_all [PayrollSession.next, WorkforceRequest.locks]
    obtain ⟨hnot, hlocks, rfl⟩ := hr
    obtain ⟨db, hdb, rfl⟩ := Option.map_eq_some_iff.mp hdone
    refine payrollCommit_exec hc (toOption_eq_some.mp hdb) hnot fun i hi => ?_
    rw [hlocks] at hi
    cases hi
  -- a request that holds the lock of its period commits over the row it has locked
  | locked r =>
    obtain ⟨⟨i, hlock, hheld⟩, hnot⟩ := ht
    cases hnext
    obtain ⟨db, hdb, rfl⟩ := Option.map_eq_some_iff.mp hdone
    refine payrollCommit_exec hc (toOption_eq_some.mp hdb) hnot fun j hj => ?_
    obtain rfl : i = j := Option.some.inj (hlock.symm.trans hj)
    exact hheld
  | lookedUp req => cases hnext
  | approving req period => cases hnext
  | calculating req period rest began =>
    cases rest with
    | read next => cases hnext
    | fail e => cases hnext
    -- the results come from reads since the session began, each of a state that was committed
    | done drafts =>
      obtain ⟨hheld, hrow, hcalculable, hbegan, reads, hreads, hthrough⟩ := ht
      cases hnext
      obtain ⟨db, hdb, rfl⟩ := Option.map_eq_some_iff.mp hdone
      have done : Calculated c.db db req period drafts :=
        ⟨hrow, hcalculable, finishCalculation_ok (toOption_eq_some.mp hdb)⟩
      refine ⟨rfl, fun i p hi hp => ?_, hc.calculated hbegan hreads hthrough done⟩
      have hne : req.payrollPeriodId ≠ i := fun h => hi (h ▸ hheld)
      obtain ⟨period', results, -, -, rfl⟩ := done.written
      exact (getElem?_set_of_some hrow period' i).trans ((if_neg hne).trans hp)
  -- the approval writes the row that it locked, checked over the attendance of some state since
  | checked req period =>
    obtain ⟨hheld, hrow, hhad⟩ := ht
    cases hnext
    obtain ⟨db, hdb, rfl⟩ := Option.map_eq_some_iff.mp hdone
    have hfinished := toOption_eq_some.mp hdb
    refine ⟨rfl, fun i p hi hp => ?_, hc.approved hrow hhad hfinished⟩
    have hne : req.payrollPeriodId ≠ i := fun h => hi (h ▸ hheld)
    rcases finishApproval_ok hfinished with rfl | ⟨approved, -, rfl⟩
    · exact hp
    · exact (getElem?_set_of_some hrow approved i).trans ((if_neg hne).trans hp)

/-- The commit of another session leaves alone what a session knows. -/
theorem PayrollSession.Knows.stable {K : ℕ → Prop} {t : PayrollSession} (ht : t.Knows K c)
    (hcommit : PayrollCommit H c c') (hexclusive : ∀ i, K i → ¬H i) : t.Knows K c' := by
  cases t with
  | begun r => trivial
  | locked r => exact ht
  | lookedUp req => trivial
  | calculating req period rest began =>
    obtain ⟨hheld, hrow, hcalculable, hbegan, reads, hreads, hthrough⟩ := ht
    refine ⟨hheld, hcommit.kept _ _ (hexclusive _ hheld) hrow, hcalculable, ?_, reads, ?_, hthrough⟩
    · rw [hcommit.past, List.length_append]
      omega
    · rw [Commits.since_append hcommit.past hbegan]
      exact fun s hs => List.mem_append_left _ (hreads hs)
  | approving req period =>
    obtain ⟨hheld, hrow⟩ := ht
    exact ⟨hheld, hcommit.kept _ _ (hexclusive _ hheld) hrow⟩
  | checked req period =>
    obtain ⟨hheld, hrow, hhad⟩ := ht
    exact ⟨hheld, hcommit.kept _ _ (hexclusive _ hheld) hrow, hhad⟩

theorem checkApproval_ok {db : Db} {req : ApprovePayrollPeriod} {period : Row PayrollPeriod}
    (h : checkApproval db req period = .ok ()) : period.val.status.HasResults := by
  unfold checkApproval at h
  split at h
  · next happroved => exact .inr (.inl happroved)
  · simp only [↓check_bind_eq_ok, raiseIf_eq_ok, not_not] at h
    exact .inl h.1

/-- What a session learns by reading. -/
theorem PayrollSession.Knows.read {t t' : PayrollSession} {f : Commits → Option PayrollSession}
    (ht : t.Knows H c) (hnext : t.next = .read f) (hread : f c = some t') : t'.Knows H c := by
  cases t with
  | begun r =>
    cases r with
    | calculatePayrollPeriod req =>
      cases hnext
      dsimp only at hread
      split at hread
      · cases hread
        trivial
      · cases hread
    | _ => cases hnext
  | locked r => cases hnext
  | lookedUp req => cases hnext
  | checked req period => cases hnext
  | calculating req period rest began =>
    cases rest with
    | done drafts => cases hnext
    | fail e =>
      cases hnext
      cases hread
    | read next =>
      obtain ⟨hheld, hrow, hcalculable, hbegan, reads, hreads, hthrough⟩ := ht
      cases hnext
      cases hread
      -- one more read, of the state as it is now
      refine ⟨hheld, hrow, hcalculable, hbegan, reads ++ [c.db], ?_, ?_⟩
      · intro s hs
        rcases List.mem_append.mp hs with hs | hs
        · exact hreads hs
        · exact List.mem_append_right _ hs
      · rw [Reading.through_append_singleton, hthrough]
        rfl
  | approving req period =>
    obtain ⟨hheld, hrow⟩ := ht
    cases hnext
    obtain ⟨_, hchecked, rfl⟩ := Option.map_eq_some_iff.mp hread
    exact ⟨hheld, hrow, checkApproval_ok (toOption_eq_some.mp hchecked)⟩

/-- What a session learns by locking a row. -/
theorem PayrollSession.Knows.lock {t t' : PayrollSession} {i : ℕ}
    {f : Commits → Option PayrollSession} (hnext : t.next = .lock i f) (hread : f c = some t') :
    t'.Knows (fun j => j = i ∨ H j) c := by
  cases t with
  | begun r =>
    cases r with
    | approvePayrollPeriod req =>
      cases hnext
      obtain ⟨period, hlocked, rfl⟩ := Option.map_eq_some_iff.mp hread
      have hlock := toOption_eq_some.mp hlocked
      unfold lockForApproval lockPayrollPeriod at hlock
      simp only [↓check_bind_eq_ok, bind_eq_ok, orRaise_eq_ok, pure_eq_ok] at hlock
      obtain ⟨period, hrow, -, rfl⟩ := hlock
      exact ⟨.inl rfl, hrow⟩
    | openPayrollPeriod req | cancelPayrollPeriod req | postPayrollPeriod req
    | reversePayrollPeriod req =>
      cases hnext
      cases hread
      refine ⟨⟨_, rfl, .inl rfl⟩, ?_⟩
      intro _ hreq
      cases hreq
    | _ => cases hnext
  -- the calculation knows its period from here on, and has read nothing yet
  | lookedUp req =>
    cases hnext
    obtain ⟨period, hlocked, rfl⟩ := Option.map_eq_some_iff.mp hread
    have hlock := toOption_eq_some.mp hlocked
    unfold lockForCalculation lockPayrollPeriod at hlock
    simp only [↓check_bind_eq_ok, bind_eq_ok, orRaise_eq_ok, raiseIf_eq_ok, pure_eq_ok,
      not_not] at hlock
    obtain ⟨period, hrow, -, hcalculable, rfl⟩ := hlock
    exact ⟨.inl rfl, hrow, hcalculable, le_rfl, [], List.nil_subset _, rfl⟩
  | locked r => cases hnext
  | approving req period => cases hnext
  | checked req period => cases hnext
  | calculating req period rest began => cases rest <;> cases hnext

/-- The rules of the sessions: reads and locks keep what a session knows, and a commit keeps what
every calculation rests on. -/
theorem payrolling_keeps :
    payrolling.Keeps (fun _ _ => True) Sourced PayrollSession.Knows where
  start _ _ _ _ _ := trivial
  read _ _ _ _ _ _ ht hnext hread := ht.read hnext hread
  lock _ _ _ _ _ _ _ _ hnext hread := PayrollSession.Knows.lock hnext hread
  commit _ k t _ _ h _ hopen hnext hdone :=
    (payrollCommit_of_next h.tables (h.sessions k t hopen) hnext hdone).sourced
  stable sv k t _ _ j u h _ hopen hnext hdone hjk hj := by
    refine (h.sessions j u hj).stable
      (payrollCommit_of_next h.tables (h.sessions k t hopen) hnext hdone) ?_
    intro i hheld hother
    exact hjk (Option.some.inj (hheld.symm.trans hother))

end

/-! ### What a calculation reads -/

/-- The rows that a calculation reads besides the period, in any of the queries it makes. -/
structure PayrollInputs where
  assignments : List EmploymentAssignment
  compensations : List CompensationPeriod
  overtimePolicies : List (Effective.Entry Unit (Row OvertimePolicy) Date)
  attendance : List (Row AttendanceRecord)
  deductionTypes : List DeductionType
  deductionRates : List (Effective.Entry ℕ CalculationMethod Date)
  deriving DecidableEq

def Db.payrollInputs (db : Db) : PayrollInputs where
  assignments := db.hr.assignments.rows
  compensations := db.hr.compensations.rows
  overtimePolicies := db.hr.overtimePolicies.rows
  attendance := db.hr.attendance
  deductionTypes := db.payroll.deductionTypes
  deductionRates := db.payroll.deductionRates.rows

/-- **A calculation does not tell tables with the same inputs apart.** -/
theorem calculation_same {db db' : Db} (h : db.payrollInputs = db'.payrollInputs) (i : ℕ)
    (p : PayrollPeriod) : (calculation i p).Same db db' := by
  obtain ⟨hassignments, hcompensations, hpolicies, hattendance, htypes, hrates⟩ :=
    PayrollInputs.mk.inj h
  -- one result, query by query
  have hdraft : ∀ policy configs employeeId,
      (draftResult i p policy configs employeeId).Same db db' := by
    intro policy configs employeeId
    unfold draftResult
    refine Reading.Same.bind (Reading.same_ask ?_) fun segments => ?_
    · exact (Effective.segments_congr (by rw [hcompensations])).symm
    refine Reading.Same.bind (Reading.same_mapM (fun s => Reading.same_ask ?_) _) fun hours => ?_
    · unfold sumAttendanceHours
      rw [hattendance]
    refine Reading.Same.bind (Reading.same_lift _) fun pay => ?_
    refine Reading.Same.bind (Reading.same_lift _) fun lastComp => ?_
    refine Reading.Same.bind (Reading.same_query ?_) fun assignment => Reading.same_pure _
    unfold resolveAssignmentAsOf
    rw [hassignments]
  -- all results: the flush of each decides on its own what it refuses
  have hdrafts : ∀ policy configs previous employeeIds,
      (draftResults i p policy configs previous employeeIds).Same db db' := by
    intro policy configs previous employeeIds
    induction employeeIds generalizing previous with
    | nil => exact Reading.same_pure []
    | cons employeeId employeeIds ih =>
      refine (hdraft policy configs employeeId).bind fun result => ?_
      refine Reading.Same.bind (Reading.same_lift _) fun _ => ?_
      exact (ih (some result)).bind fun results => Reading.same_pure _
  unfold calculation
  refine Reading.Same.bind (Reading.same_query ?_) fun policy => ?_
  · unfold resolveOvertimePolicy
    rw [hpolicies]
  refine Reading.Same.bind (Reading.same_ask ?_) fun configs => ?_
  · unfold resolveDeductionConfigs
    rw [htypes, hrates]
  refine Reading.Same.bind (Reading.same_ask ?_) fun employeeIds => hdrafts policy configs none _
  unfold employeesAssignedToStoreDuring
  rw [hassignments]

/-! ### Approvals -/

/-- Nothing that was committed since the last calculation of the period began changes an
answer to its queries. -/
def Undisturbed (c : Commits) (payrollPeriodId : ℕ) (p : PayrollPeriod) : Prop :=
  ∀ n ∈ c.began payrollPeriodId, ∀ db ∈ c.since n, (calculation payrollPeriodId p).Same db c.db

variable {db₀ : Db} {sv : Server Commits ℕ PayrollSession}

/-- **A period that is approved undisturbed has the results of a new calculation.** -/
theorem approvals_are_current (start : BeforePayroll db₀)
    (run : Reaches payrolling.exec (fun _ _ => True) { tables := { db := db₀ } } sv)
    {k : ℕ} {req : ApprovePayrollPeriod} {period : Row PayrollPeriod}
    (approves : sv.sessions k = some (.checked req period))
    (undisturbed : Undisturbed sv.tables req.payrollPeriodId period.val) :
    sv.tables.db.payroll.periods[req.payrollPeriodId]? = some period ∧
      ∃ drafts, (calculation req.payrollPeriodId period.val).eval sv.tables.db = .ok drafts ∧
        draftsOf sv.tables.db req.payrollPeriodId = drafts.map PayrollEmployeeResult.stored := by
  have hstart : Sourced { db := db₀ } := by
    intro i p hp _
    rw [start.periods] at hp
    cases hp
  have hinv := payrolling_keeps.reaches (Server.inv_of_tables hstart) run
  obtain ⟨-, hrow, hhad⟩ := hinv.sessions k _ approves
  obtain ⟨n, reads, drafts, hbegan, -, hreads, hthrough, hstored⟩ :=
    hinv.tables req.payrollPeriodId period hrow hhad
  refine ⟨hrow, drafts, ?_, hstored⟩
  rw [← Reading.eval_through fun db hdb => undisturbed n hbegan db (hreads hdb), hthrough]
  rfl

/-! ### A raise between the calculation and its approval -/

/-- A session makes a request, in a number of steps. -/
def session (k : ℕ) (r : WorkforceRequest) (steps : ℕ) : List (Event WorkforceRequest) :=
  .begin k r :: List.replicate steps (.step k)

/-- A salary is calculated for thirty days; its six queries follow each other. -/
def calculatedSalary : List (Event WorkforceRequest) :=
  session 0 (hireFor 0) 1 ++ session 1 paySalary 1
    ++ session 2 (.createPayrollPeriod ⟨0, 1, 30, 30, none⟩) 1
    ++ session 3 (.openPayrollPeriod ⟨0, some 0, none⟩) 2
    ++ session 4 (calculateAt 0 0) 9

/-- Events, one after the other, from new shops; it fails where an event is not possible. -/
def payrollRun (events : List (Event WorkforceRequest)) :
    Except Refused (Server Commits ℕ PayrollSession) :=
  events.foldlM (fun sv e => payrolling.exec e sv) { tables := { db := newShops } }

/-- The period is about to be approved: the session has locked it and found it calculated. -/
def salaryChecked : Server Commits ℕ PayrollSession :=
  value (payrollRun (calculatedSalary ++ session 5 (approveAt 0 1) 2)) (by decide +kernel)

/-- The approval that a session is about to commit. -/
def PayrollSession.approval : PayrollSession → Option (ApprovePayrollPeriod × Row PayrollPeriod)
  | .checked req period => some (req, period)
  | _ => none

/-- What the employees of the first period are paid, were it calculated again. -/
def paidAgain (db : Db) : List (List ℚ) :=
  db.payroll.periods.map fun p =>
    (((calculation 0 p.val).eval db).toOption.getD []).map (·.grossPay)

theorem approvals_are_current_salary :
    salaryChecked.tables.db.payroll.periods.length = 1 ∧
      ∀ p ∈ salaryChecked.tables.db.payroll.periods, ∃ drafts,
        (calculation 0 p.val).eval salaryChecked.tables.db = .ok drafts ∧
        draftsOf salaryChecked.tables.db 0 = drafts.map PayrollEmployeeResult.stored := by
  have hsome : ((salaryChecked.sessions 5).bind PayrollSession.approval).map
      (·.1.payrollPeriodId) = some 0 := by decide +kernel
  obtain ⟨⟨req, period⟩, happroval, hperiod⟩ := Option.map_eq_some_iff.mp hsome
  obtain ⟨t, ht, hchecked⟩ := Option.bind_eq_some_iff.mp happroval
  obtain rfl : t = .checked req period := by
    cases t <;> simp_all [PayrollSession.approval]
  have hinputs : ∀ n ∈ salaryChecked.tables.began 0, ∀ db ∈ salaryChecked.tables.since n,
      db.payrollInputs = salaryChecked.tables.db.payrollInputs := by decide +kernel
  have run : Reaches payrolling.exec (fun _ _ => True) { tables := { db := newShops } }
      salaryChecked := reaches_of_foldlM (eq_ok_value _ _)
  have hcurrent := approvals_are_current newShops_beforePayroll run ht
    fun n hn db hdb => calculation_same (hinputs n (hperiod ▸ hn) db hdb) _ _
  dsimp only at hperiod
  rw [hperiod] at hcurrent
  have hone : salaryChecked.tables.db.payroll.periods.length = 1 := by decide +kernel
  obtain ⟨q, hq⟩ := List.length_eq_one_iff.mp hone
  refine ⟨hone, ?_⟩
  rw [hq] at hcurrent ⊢
  obtain rfl : q = period := Option.some.inj hcurrent.1
  intro p hp
  rw [List.mem_singleton.mp hp]
  exact hcurrent.2

/-- The salary is raised to 4500 from day 16 on. -/
def raiseSalary : WorkforceRequest :=
  .changeCompensation {
    employeeId := 0
    effectiveFrom := 16
    compensation := ⟨.salary, 4500, false, "USD"⟩ }

/-- The raise is committed before the approval, and the approval does not look at it. -/
def approvedAfterRaise : Server Commits ℕ PayrollSession :=
  value (payrollRun (calculatedSalary ++ session 5 raiseSalary 1 ++ session 6 (approveAt 0 1) 3))
    (by decide +kernel)

/-- **A raise does not make a calculation stale**: the period is approved with 3000, and would
come to 3750. -/
theorem approved_after_raise :
    BeforePayroll newShops ∧
      Reaches payrolling.exec (fun _ _ => True) { tables := { db := newShops } }
        approvedAfterRaise ∧
      approvedAfterRaise.tables.db.payroll.periods.map (·.val.status) = [.approved] ∧
      (draftsOf approvedAfterRaise.tables.db 0).map (·.grossPay) = [3000] ∧
      paidAgain approvedAfterRaise.tables.db = [[3750]] := by
  refine ⟨newShops_beforePayroll, reaches_of_foldlM (eq_ok_value _ _), ?_, ?_, ?_⟩
  · decide +kernel
  · decide +kernel
  · decide +kernel

end GroceryErp
