import GroceryErp.Payroll.Lifecycle

/-!
# The payroll report and the books

The report sets the net credit of Payroll Payable against the net pay of the posted
periods.  A reversal debits the account and leaves the period posted, so the two sides part
by the net pay of the reversed periods.

## Main definitions

* `reversedNetPay` — the net pay of a period that has been reversed.
* `TakesNothingBack` — a request that reverses no net pay.

## Main results

* `payroll_discrepancy_eq` — the report is off by the net pay of the reversed periods.
* `payroll_discrepancy_zero` — when it is not off at all.
* `payroll_discrepancy_after_reversal` — that a reversal throws it off.
-/

namespace GroceryErp

open Decimal Ledger Outcome Rows Runs

variable {db₀ db db' : Db} {storeIds : Option (List ℕ)}

/-- The net pay of the period that a reversal is of, where its store is asked for. -/
def reversedNetPay (db : Db) (storeIds : Option (List ℕ)) (r : PayrollReversal) : ℚ :=
  match db.payroll.periods[r.payrollPeriodId]? with
  | some p => if InStores storeIds p.val.storeId then p.val.totalNetPay else 0
  | none => 0

theorem reversedNetPay_of_row {r : PayrollReversal} {p : Row PayrollPeriod}
    (h : db.payroll.periods[r.payrollPeriodId]? = some p) :
    reversedNetPay db storeIds r = if InStores storeIds p.val.storeId then p.val.totalNetPay else 0 := by
  simp [reversedNetPay, h]

/-- The report is off by the net pay of the reversed periods. -/
def OffByReversals (db : Db) : Prop :=
  ∀ storeIds, (payrollGlReconciliation db storeIds).discrepancy
    = -(db.payroll.reversals.map (reversedNetPay db storeIds)).sum

/-- A period that is reversed stays as it is. -/
theorem sum_reversedNetPay_since (h : PayrollInOrder db) (hsince : PayrollSince db db') :
    (db.payroll.reversals.map (reversedNetPay db' storeIds)).sum
      = (db.payroll.reversals.map (reversedNetPay db storeIds)).sum := by
  congr 1
  apply List.map_congr_left
  intro r hr
  obtain ⟨p, hp, hposted⟩ := h.reversed r hr
  rw [reversedNetPay_of_row hp, reversedNetPay_of_row (hsince.kept _ p hp (.inl hposted))]

/-- The net pay of a period is not negative. -/
theorem PayrollInOrder.totalNetPay_nonneg (h : PayrollInOrder db) {i : ℕ} {p : Row PayrollPeriod}
    (hp : db.payroll.periods[i]? = some p) : 0 ≤ p.val.totalNetPay := by
  have hnet : p.val.totalNetPay = (totalsOf db i).netPay := by
    rw [← h.totals i p hp]
    rfl
  rw [hnet]
  apply List.sum_nonneg
  intro x hx
  obtain ⟨y, hy, rfl⟩ := List.mem_map.mp hx
  obtain ⟨r, -, rfl⟩ := List.mem_map.mp hy
  exact r.property.head.net_pay_nonneg

/-- What the entry of a period adds to Payroll Payable. -/
theorem PayrollInOrder.entryNet_payrollPayable (h : PayrollInOrder db) {i : ℕ}
    {p : Row PayrollPeriod} (hp : db.payroll.periods[i]? = some p) (reverse : Bool) :
    net .payrollPayable ((payrollJournalLines (totalsOf db i) reverse).map storedLine)
      = if reverse then p.val.totalNetPay else -p.val.totalNetPay := by
  have hadds : ∀ r ∈ resultsOf db i, r.val.Adds := by
    intro r hr
    exact h.adds r (List.mem_filter.mp hr).1
  have hsound : (totalsOf db i).Sound :=
    sound_payrollTotals hadds fun r _ => r.property.head.net_pay_nonneg
  have hgrid : OnGrid 6 (totalsOf db i).netPay := by
    have hcents : OnGrid 2 (totalsOf db i).netPay := by
      apply onGrid_map_sum_of_mem
      intro r hr
      obtain ⟨k, hk, rfl⟩ := List.mem_map.mp hr
      exact (hadds k hk).onGrid.2.2.2
    exact hcents.mono (by omega)
  rw [net_payrollPayable_payrollJournalLines hsound hgrid, ← h.totals i p hp]
  rfl

/-! ### One step -/

/-- An update that neither starts nor ends as posted leaves the report as it is. -/
theorem discrepancy_setPeriod {i : ℕ} {period period' : Row PayrollPeriod}
    (hrow : db.payroll.periods[i]? = some period) (hold : period.val.status ≠ .posted)
    (hnew : period'.val.status ≠ .posted) (hledger : db'.ledger = db.ledger)
    (hperiods : db'.payroll.periods = db.payroll.periods.set i period') :
    (payrollGlReconciliation db' storeIds).discrepancy
      = (payrollGlReconciliation db storeIds).discrepancy := by
  simp only [payrollGlReconciliation, hledger, hperiods]
  rw [sumWhere_set _ _ hrow, if_neg fun h => hold h.1, if_neg fun h => hnew h.1, sub_zero, add_zero]

/-- **Every step keeps the report off by the net pay of the reversed periods.** -/
theorem OffByReversals.step (hoff : OffByReversals db) (h : PayrollInOrder db)
    (hstep : PayrollStep db db') : OffByReversals db' := by
  have hsince := hstep.since
  intro storeIds
  -- a step that reverses nothing leaves the report alone
  have hkeep : db'.payroll.reversals = db.payroll.reversals →
      (payrollGlReconciliation db' storeIds).discrepancy
        = (payrollGlReconciliation db storeIds).discrepancy →
      (payrollGlReconciliation db' storeIds).discrepancy
        = -(db'.payroll.reversals.map (reversedNetPay db' storeIds)).sum := by
    intro hreversals hdiscrepancy
    rw [hdiscrepancy, hoff storeIds, hreversals, sum_reversedNetPay_since h hsince]
  cases hstep with
  | aside same =>
    apply hkeep same.reversals
    simp only [payrollGlReconciliation, same.ledger, same.periods]
  | created value fresh =>
    apply hkeep rfl
    have hdraft : ∀ period : Row PayrollPeriod, period.val.status = .draft →
        ¬(period.val.status = .posted ∧ InStores storeIds period.val.storeId) := by
      intro period hperiod hposted
      rw [hperiod] at hposted
      cases hposted.1
    simp only [payrollGlReconciliation, sumWhere_append, sumWhere_singleton]
    rw [if_neg (hdraft _ (by rw [value])), add_zero]
  | moved row moves =>
    apply hkeep rfl
    refine discrepancy_setPeriod row ?_ moves.not_posted rfl rfl
    rcases moves.from_live with hs | hs | hs | hs <;> simp [hs]
  | @calculated _ req period drafts done drafted =>
    have hold : period.val.status ≠ .posted := by
      rcases done.calculable with hs | hs <;> simp [hs]
    obtain ⟨period', results, hperiod, -, rfl⟩ := done.written
    apply hkeep rfl
    have hnew : period'.val.status ≠ .posted := by
      rw [hperiod]
      intro hposted
      cases hposted
    exact discrepancy_setPeriod done.row hold hnew rfl rfl
  | @posted req period posted entry row approved value unposted entry_value =>
    apply hkeep rfl
    have hentry : entryNet .payrollPayable entry = -period.val.totalNetPay := by
      rw [entryNet, entry_value, h.entryNet_payrollPayable row]
      rfl
    have hold : ¬(period.val.status = .posted ∧ InStores storeIds period.val.storeId) := by
      simp [approved]
    simp only [payrollGlReconciliation, sumWhere_append, sumWhere_singleton]
    rw [sumWhere_set _ _ row, if_neg hold, hentry, entry_value, value]
    by_cases hin : InStores storeIds period.val.storeId
    · simp only [hin, if_true, PostPayrollPeriod.posted, and_self]
      ring
    · simp [hin, PostPayrollPeriod.posted]
  | @reversed req period entry row posted unreversed unposted entry_value =>
    have hentry : entryNet .payrollPayable entry = period.val.totalNetPay := by
      rw [entryNet, entry_value, h.entryNet_payrollPayable row]
      rfl
    have hrest := @sum_reversedNetPay_since _ _ storeIds h hsince
    have hdiscrepancy := hoff storeIds
    simp only [payrollGlReconciliation] at hdiscrepancy ⊢
    rw [List.map_append, List.sum_append, hrest, sumWhere_append, sumWhere_singleton, hentry,
      entry_value, List.map_singleton, List.sum_singleton, reversedNetPay_of_row row]
    dsimp only
    linarith

/-! ### Runs -/

/-- No entry of the ledger is on Payroll Payable. -/
def NoPayrollPayable (db : Db) : Prop :=
  ∀ e ∈ db.ledger.entries, ∀ l ∈ e.val.lines, l.account ≠ .payrollPayable

theorem NoPayrollPayable.offByReversals (h : NoPayrollPayable db) (start : BeforePayroll db) :
    OffByReversals db := by
  intro storeIds
  have hledger : sumWhere (fun e => InStores storeIds e.val.storeId) (entryNet .payrollPayable)
      db.ledger.entries = 0 := by
    apply sumWhere_eq_zero
    intro e he _
    apply sumWhere_eq_zero
    intro l hl haccount
    exact absurd haccount (h e he l hl)
  simp [payrollGlReconciliation, hledger, start.periods, start.reversals]

/-- **After any run the report is off by the net pay of the reversed periods.** -/
theorem payroll_discrepancy_eq {ok : Db → WorkforceRequest → Prop} (start : BeforePayroll db₀)
    (clean : NoPayrollPayable db₀) (run : Reaches WorkforceRequest.exec ok db₀ db) :
    OffByReversals db := by
  have hboth : PayrollInOrder db ∧ OffByReversals db := by
    apply run.invariant ⟨start.inOrder, clean.offByReversals start⟩
    intro d r d' hd _ hdone
    have hstep := exec_payrollStep hdone
    exact ⟨hstep.inOrder hd.1, hd.2.step hd.1 hstep⟩
  exact hboth.2

/-- The request does not reverse a period with net pay. -/
def TakesNothingBack (db : Db) (r : WorkforceRequest) : Prop :=
  ∀ req, r = .reversePayrollPeriod req → ∀ p, db.payroll.periods[req.payrollPeriodId]? = some p →
    p.val.status = .posted → ¬Reversed db req.payrollPeriodId → p.val.totalNetPay = 0

/-- No reversed period has net pay. -/
def NothingTakenBack (db : Db) (storeIds : Option (List ℕ)) : Prop :=
  ∀ r ∈ db.payroll.reversals, reversedNetPay db storeIds r = 0

theorem NothingTakenBack.exec {r : WorkforceRequest} (hzero : NothingTakenBack db storeIds)
    (h : PayrollInOrder db) (hok : TakesNothingBack db r) (hdone : r.exec db = .ok db') :
    NothingTakenBack db' storeIds := by
  have hsince := (exec_payrollStep hdone).since
  have hkept : ∀ v ∈ db.payroll.reversals, reversedNetPay db' storeIds v = 0 := by
    intro v hv
    obtain ⟨p, hp, hposted⟩ := h.reversed v hv
    rw [reversedNetPay_of_row (hsince.kept _ p hp (.inl hposted)), ← reversedNetPay_of_row hp]
    exact hzero v hv
  intro v hv
  rcases exec_reversals hdone with hr | ⟨req, period, rfl, hrow, hposted, hnew, hr⟩
  · exact hkept v (hr ▸ hv)
  · rw [hr] at hv
    rcases List.mem_append.mp hv with hv | hv
    · exact hkept v hv
    · rw [List.mem_singleton.mp hv,
        reversedNetPay_of_row (hsince.kept _ period hrow (.inl hposted)),
        hok req rfl period hrow hposted hnew, ite_self]

/-- **The report is not off exactly where no reversed period had net pay**, so it never is
in a run that takes no net pay back. -/
theorem payroll_discrepancy_zero (start : BeforePayroll db₀) (clean : NoPayrollPayable db₀) :
    (∀ db, Reaches WorkforceRequest.exec (fun _ _ => True) db₀ db → ∀ storeIds,
      ((payrollGlReconciliation db storeIds).discrepancy = 0 ↔
        NothingTakenBack db storeIds)) ∧
    ∀ db, Reaches WorkforceRequest.exec TakesNothingBack db₀ db → ∀ storeIds,
      (payrollGlReconciliation db storeIds).discrepancy = 0 := by
  have hiff : ∀ db, Reaches WorkforceRequest.exec (fun _ _ => True) db₀ db → ∀ storeIds,
      ((payrollGlReconciliation db storeIds).discrepancy = 0 ↔ NothingTakenBack db storeIds) := by
    intro db run storeIds
    have hdb := payrollInOrder_of_reaches start.inOrder run
    rw [payroll_discrepancy_eq start clean run storeIds, neg_eq_zero]
    -- every reversal takes back something or nothing, so the sum is zero only if all of them are
    have hnonneg : ∀ x ∈ db.payroll.reversals.map (reversedNetPay db storeIds), 0 ≤ x := by
      intro x hx
      obtain ⟨r, hr, rfl⟩ := List.mem_map.mp hx
      obtain ⟨p, hp, -⟩ := hdb.reversed r hr
      rw [reversedNetPay_of_row hp]
      split
      · exact hdb.totalNetPay_nonneg hp
      · exact le_rfl
    constructor
    · intro hsum r hr
      exact List.all_zero_of_le_zero_le_of_sum_eq_zero hnonneg hsum (List.mem_map_of_mem hr)
    · intro hzero
      apply List.sum_eq_zero
      intro x hx
      obtain ⟨r, hr, rfl⟩ := List.mem_map.mp hx
      exact hzero r hr
  refine ⟨hiff, fun db run storeIds => ?_⟩
  rw [hiff db (run.mono fun _ _ _ => trivial) storeIds]
  have hboth : PayrollInOrder db ∧ NothingTakenBack db storeIds := by
    apply run.invariant
    · exact ⟨start.inOrder, by simp [NothingTakenBack, start.reversals]⟩
    · intro d r d' hd hok hdone
      exact ⟨(exec_payrollStep hdone).inOrder hd.1, hd.2.exec hd.1 hok hdone⟩
  exact hboth.2

theorem newShops_noPayrollPayable : NoPayrollPayable newShops :=
  fun _ he => absurd he List.not_mem_nil

/-- A salary that is paid, and not taken back. -/
theorem payroll_discrepancy_zero_salary :
    (payrollGlReconciliation salaryPaid none).discrepancy = 0 := by
  obtain ⟨hiff, -⟩ := payroll_discrepancy_zero newShops_beforePayroll newShops_noPayrollPayable
  refine (hiff salaryPaid reaches_salaryPaid none).mpr fun r hr => ?_
  have hnone : salaryPaid.payroll.reversals = [] := by decide +kernel
  rw [hnone] at hr
  exact absurd hr List.not_mem_nil

/-- **A reversal throws the report off**: the pay is taken back from the books and stays
among the posted. -/
theorem payroll_discrepancy_after_reversal :
    Reaches WorkforceRequest.exec (fun _ _ => True) newShops salaryReversed ∧
      payrollGlReconciliation salaryReversed none = ⟨0, 3000, -3000⟩ :=
  ⟨.next reaches_salaryPaid trivial (eq_ok_value _ _), by decide +kernel⟩

end GroceryErp
