import GroceryErp.Accounting.Postings

/-!
# The postings of payroll

A payroll period has one entry, built from the sums of its results, and its reversal the
same lines with their sides swapped.

## Main definitions

* `PayrollTotals`, `payrollTotals` — what the results of a period come to.
* `payrollJournalLines` — the lines of the entry.

## Main results

* `balanced_payrollJournalLines` — the entry balances where no net pay is negative.
* `net_payrollPayable_payrollJournalLines` — it credits Payroll Payable with the net pay.

## References

`backend/app/modules/accounting/service.py`.
-/

namespace GroceryErp

open Decimal Ledger Rows

/-- The sums that a payroll is posted with, as the row of the period keeps them. -/
structure PayrollTotals where
  gross : ℚ
  deductions : ℚ
  employerContributions : ℚ
  netPay : ℚ
  deriving DecidableEq

/-- The four sums over the results of a period, from which its journal lines are made. -/
def payrollTotals (results : List PayrollEmployeeResult) : PayrollTotals where
  gross := (results.map PayrollEmployeeResult.grossPay).sum
  deductions := (results.map PayrollEmployeeResult.totalDeductions).sum
  employerContributions := (results.map PayrollEmployeeResult.totalEmployerContributions).sum
  netPay := (results.map PayrollEmployeeResult.netPay).sum

/-- `_payroll_journal_lines`: gross pay and employer contributions are expenses, and what is owed is
credited to the employees, the benefit funds and the contribution funds. The reversal is the mirror
image. -/
def payrollJournalLines (totals : PayrollTotals) (reverse : Bool) : List JournalLine :=
  let lines :=
    debitIf .wageSalaryExpense totals.gross
      ++ debitIf .employerContributionExpense totals.employerContributions
      ++ creditIf .payrollPayable totals.netPay
      ++ creditIf .benefitDeductionPayable totals.deductions
      ++ creditIf .employerContributionPayable totals.employerContributions
  if reverse then mirror lines else lines

/-- `post_payroll_journal`: the totals of a period's results are posted on its pay date. -/
def postPayrollJournal (db : Db) (payrollPeriodId : ℕ) (period : PayrollPeriod)
    (results : List PayrollEmployeeResult) : Result Db :=
  postJournal db period.storeId period.payDate .payrollPosting payrollPeriodId
    (payrollJournalLines (payrollTotals results) false)

/-- `post_payroll_reversal_journal`: the mirrored totals are posted on the day of the reversal, and
not on the pay date. -/
def postPayrollReversalJournal (db : Db) (payrollPeriodId : ℕ) (period : PayrollPeriod)
    (results : List PayrollEmployeeResult) (today : Date) : Result Db :=
  postJournal db period.storeId today .payrollReversal payrollPeriodId
    (payrollJournalLines (payrollTotals results) true)

variable {totals : PayrollTotals}

theorem payrollJournalLines_reverse (totals : PayrollTotals) :
    payrollJournalLines totals true = mirror (payrollJournalLines totals false) := rfl

/-- The sums of a payroll none of whose amounts is negative. -/
structure PayrollTotals.Sound (totals : PayrollTotals) : Prop where
  gross_nonneg : 0 ≤ totals.gross
  deductions_nonneg : 0 ≤ totals.deductions
  contributions_nonneg : 0 ≤ totals.employerContributions
  net_nonneg : 0 ≤ totals.netPay
  net_math : totals.netPay = totals.gross - totals.deductions

/-- **The entry of a payroll balances where no net pay is negative.** -/
theorem balanced_payrollJournalLines (h : totals.Sound) (reverse : Bool) :
    Ledger.Balanced (payrollJournalLines totals reverse) := by
  have hlines : Ledger.Balanced (payrollJournalLines totals false) := by
    unfold Ledger.Balanced payrollJournalLines
    dsimp only
    rw [if_neg Bool.false_ne_true]
    simp only [totalDebit_append, totalCredit_append, totalDebit_debitIf _ h.gross_nonneg,
      totalDebit_debitIf _ h.contributions_nonneg, totalDebit_creditIf, totalCredit_debitIf,
      totalCredit_creditIf _ h.net_nonneg, totalCredit_creditIf _ h.deductions_nonneg,
      totalCredit_creditIf _ h.contributions_nonneg]
    rw [h.net_math]
    ring
  cases reverse with
  | false => exact hlines
  | true => exact hlines.mirror

/-- **The entry credits Payroll Payable with the net pay**, and the reversal takes it back. -/
theorem net_payrollPayable_payrollJournalLines (h : totals.Sound) (hgrid : OnGrid 6 totals.netPay)
    (reverse : Bool) :
    net .payrollPayable ((payrollJournalLines totals reverse).map storedLine)
      = if reverse then totals.netPay else -totals.netPay := by
  have hcredit : net .payrollPayable ((creditIf .payrollPayable totals.netPay).map storedLine)
      = -totals.netPay := by
    rw [map_storedLine_of_onGrid fun l hl => lineOnGrid_of_mem_creditIf hgrid hl,
      net_creditIf _ _ h.net_nonneg, if_pos rfl]
  -- of the lines only one is on Payroll Payable, the third
  have hlines : net .payrollPayable ((payrollJournalLines totals false).map storedLine)
      = -totals.netPay := by
    have hbefore : net Account.payrollPayable ((debitIf Account.wageSalaryExpense totals.gross
        ++ debitIf Account.employerContributionExpense totals.employerContributions).map
          storedLine) = 0 := by
      refine net_map_storedLine_eq_zero fun l hl => ?_
      rcases List.mem_append.mp hl with hl | hl
      · rw [account_of_mem_debitIf hl]
        decide
      · rw [account_of_mem_debitIf hl]
        decide
    have hafter : net Account.payrollPayable ((creditIf Account.benefitDeductionPayable
        totals.deductions ++ creditIf Account.employerContributionPayable
          totals.employerContributions).map storedLine) = 0 := by
      refine net_map_storedLine_eq_zero fun l hl => ?_
      rcases List.mem_append.mp hl with hl | hl
      · rw [account_of_mem_creditIf hl]
        decide
      · rw [account_of_mem_creditIf hl]
        decide
    unfold payrollJournalLines
    dsimp only
    rw [if_neg Bool.false_ne_true, List.append_assoc _ (creditIf _ _) (creditIf _ _),
      List.map_append, List.map_append, net_append, net_append, hbefore, hcredit, hafter,
      zero_add, add_zero]
  cases reverse with
  | false => exact hlines
  | true =>
    rw [payrollJournalLines_reverse, map_storedLine_mirror, net_mirror, hlines, neg_neg,
      if_pos rfl]

end GroceryErp
