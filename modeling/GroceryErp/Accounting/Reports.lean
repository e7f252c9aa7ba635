import GroceryErp.Accounting.Periods
import Mathlib.Algebra.BigOperators.Ring.List
import Mathlib.Tactic.Ring

/-!
# The reports

The trial balance sums the journal lines by account; the profit and loss and the balance
sheet are read off its rows.  A row of the trial balance is missing where an account has
lines and none of them is kept by the filters, and is there, with zeros, where it has none
at all.  What the rows say depends on the lines kept alone.

## Main definitions

* `Account.code`, `systemAccounts` — the seeded chart.
* `EntryFilter` — by store, by a list of stores, and by date.
* `trialBalance`, `profitAndLoss`, `balanceSheetSummary`.
* `keptLines` — the lines of the entries that the filters keep.

## Main results

* `sum_trialBalance` — a sum over the rows is a sum over the chart.
* `profitAndLoss_ok`, `balanceSheetSummary_ok` — the figures, as balances of the lines kept.
* `reports_agree` — the three reports agree with each other and add up.

## References

`backend/app/modules/accounting/service.py`, `backend/app/modules/accounting/constants.py`,
`backend/app/modules/reports/service.py`.
-/

namespace GroceryErp

open Ledger Outcome Rows

/-! ### The chart of accounts -/

inductive AccountType
  | asset
  | liability
  | equity
  | revenue
  | expense
  deriving DecidableEq

inductive NormalBalance
  | debit
  | credit
  deriving DecidableEq

/-- The code that an account is referred to by in the reports and in the seeds. -/
def Account.code : Account → String
  | .cashOnHand => "1000"
  | .cardClearing => "1010"
  | .mobileMoneyClearing => "1020"
  | .bankTransferClearing => "1030"
  | .otherPaymentClearing => "1040"
  | .bankAccount => "1050"
  | .inventory => "1500"
  | .inventoryInTransit => "1520"
  | .purchaseClearing => "2000"
  | .accountsPayable => "2010"
  | .taxPayable => "2100"
  | .payrollPayable => "2200"
  | .statutoryWithholdingPayable => "2210"
  | .benefitDeductionPayable => "2220"
  | .employerContributionPayable => "2230"
  | .salesRevenue => "4000"
  | .salesDiscounts => "4100"
  | .inventoryAdjustmentGain => "4900"
  | .cogs => "5000"
  | .purchasePriceVariance => "5100"
  | .purchaseDiscounts => "5150"
  | .purchaseTaxExpense => "5200"
  | .inventoryShrinkageExpense => "5900"
  | .cashOverShort => "5910"
  | .wageSalaryExpense => "6000"
  | .employerContributionExpense => "6100"

/-- A row of `accounts`, with its name, its type and the side its balance is on. -/
structure AccountRow where
  account : Account
  name : String
  accountType : AccountType
  normalBalance : NormalBalance
  deriving DecidableEq

/-- `SYSTEM_ACCOUNTS`: the chart of accounts, with the type of each and the side its balance is on.
-/
def systemAccounts : List AccountRow :=
  [⟨.cashOnHand, "Cash on Hand", .asset, .debit⟩,
    ⟨.cardClearing, "Card Clearing", .asset, .debit⟩,
    ⟨.mobileMoneyClearing, "Mobile Money Clearing", .asset, .debit⟩,
    ⟨.bankTransferClearing, "Bank Transfer Clearing", .asset, .debit⟩,
    ⟨.otherPaymentClearing, "Other Payment Clearing", .asset, .debit⟩,
    ⟨.inventory, "Inventory", .asset, .debit⟩,
    ⟨.inventoryInTransit, "Inventory In Transit", .asset, .debit⟩,
    ⟨.purchaseClearing, "Purchase Clearing", .liability, .credit⟩,
    ⟨.accountsPayable, "Accounts Payable", .liability, .credit⟩,
    ⟨.bankAccount, "Bank Account (Operating)", .asset, .debit⟩,
    ⟨.purchasePriceVariance, "Purchase Price Variance", .expense, .debit⟩,
    ⟨.purchaseTaxExpense, "Purchase Tax Expense (Non-Recoverable)", .expense, .debit⟩,
    ⟨.purchaseDiscounts, "Purchase Discounts", .expense, .credit⟩,
    ⟨.taxPayable, "Tax Payable", .liability, .credit⟩,
    ⟨.salesRevenue, "Sales Revenue", .revenue, .credit⟩,
    ⟨.salesDiscounts, "Sales Discounts", .revenue, .debit⟩,
    ⟨.inventoryAdjustmentGain, "Inventory Adjustment Gain", .revenue, .credit⟩,
    ⟨.cogs, "Cost of Goods Sold", .expense, .debit⟩,
    ⟨.inventoryShrinkageExpense, "Inventory Shrinkage Expense", .expense, .debit⟩,
    ⟨.cashOverShort, "Cash Over/Short", .expense, .debit⟩,
    ⟨.payrollPayable, "Payroll Payable", .liability, .credit⟩,
    ⟨.statutoryWithholdingPayable, "Statutory Withholding Payable", .liability, .credit⟩,
    ⟨.benefitDeductionPayable, "Benefit / Other Deduction Payable", .liability, .credit⟩,
    ⟨.employerContributionPayable, "Employer Contribution Payable", .liability, .credit⟩,
    ⟨.wageSalaryExpense, "Wage & Salary Expense", .expense, .debit⟩,
    ⟨.employerContributionExpense, "Employer Contribution Expense", .expense, .debit⟩]

/-- No account is in the chart twice. -/
theorem nodup_systemAccounts : (systemAccounts.map AccountRow.account).Nodup := by
  decide +kernel

theorem nodup_codes : (systemAccounts.map fun r => r.account.code).Nodup := by
  decide +kernel

theorem mem_systemAccounts (a : Account) : a ∈ systemAccounts.map AccountRow.account := by
  cases a <;> decide +kernel

/-! ### Filters -/

/-- The filters of a report, as `_apply_entry_filters` takes them; what is left out does not
restrict. -/
structure EntryFilter where
  storeId : Option ℕ := none
  storeIds : Option (List ℕ) := none
  dateFrom : Option Date := none
  dateTo : Option Date := none
  deriving DecidableEq

/-- The filters keep the entries of the store, alone or among others. -/
def EntryFilter.HasStore (f : EntryFilter) (storeId : ℕ) : Prop :=
  match f.storeIds with
  | some storeIds => storeId ∈ storeIds
  | none => ∀ s ∈ f.storeId, storeId = s

/-- The filters keep the entries of the day, which lies between their two dates. -/
def EntryFilter.HasDate (f : EntryFilter) (d : Date) : Prop :=
  (∀ a ∈ f.dateFrom, a ≤ d) ∧ ∀ b ∈ f.dateTo, d ≤ b

instance EntryFilter.decidableHasStore (f : EntryFilter) (storeId : ℕ) :
    Decidable (f.HasStore storeId) :=
  match h : f.storeIds with
  | some storeIds => decidable_of_iff (storeId ∈ storeIds) (by simp [HasStore, h])
  | none => decidable_of_iff (∀ s ∈ f.storeId, storeId = s) (by simp [HasStore, h])

instance EntryFilter.decidableHasDate (f : EntryFilter) (d : Date) : Decidable (f.HasDate d) :=
  inferInstanceAs (Decidable (_ ∧ _))

/-- The filters keep an entry of one of their stores that was posted on one of their days. -/
def EntryFilter.Keeps (f : EntryFilter) (e : BookEntry) : Prop :=
  f.HasStore e.storeId ∧ f.HasDate e.postingDate

instance EntryFilter.decidableKeeps (f : EntryFilter) (e : BookEntry) : Decidable (f.Keeps e) :=
  inferInstanceAs (Decidable (_ ∧ _))

/-- `_apply_entry_filters`, to a row of the outer join; where no entry is joined, nothing is
asked. -/
def EntryFilter.KeepsJoined (f : EntryFilter) (r : Option (BookEntry × JournalLine)) : Prop :=
  ∀ el ∈ r, f.Keeps el.1

instance EntryFilter.decidableKeepsJoined (f : EntryFilter)
    (r : Option (BookEntry × JournalLine)) : Decidable (f.KeepsJoined r) :=
  inferInstanceAs (Decidable (∀ _ ∈ _, _))

/-! ### The trial balance -/

structure TrialBalanceRow where
  accountCode : String
  accountName : String
  accountType : AccountType
  normalBalance : NormalBalance
  totalDebit : ℚ
  totalCredit : ℚ
  deriving DecidableEq

/-- The rows of the outer join for an account: its lines with their entries, or, where it has
none, one without. -/
def Books.joined (b : Books) (a : Account) : List (Option (BookEntry × JournalLine)) :=
  match b.entries.flatMap fun e => (e.val.lines.filter (·.account = a)).map fun l => (e.val, l) with
  | [] => [none]
  | joined => joined.map some

/-- `coalesce(sum(..), 0)` of a column of the lines joined. -/
def column (f : JournalLine → ℚ) (joined : List (Option (BookEntry × JournalLine))) : ℚ :=
  (joined.map fun r => r.elim 0 fun el => f el.2).sum

/-- The row of an account with its two sums. -/
def AccountRow.total (r : AccountRow) (totalDebit totalCredit : ℚ) : TrialBalanceRow where
  accountCode := r.account.code
  accountName := r.name
  accountType := r.accountType
  normalBalance := r.normalBalance
  totalDebit
  totalCredit

/-- The group of an account, when the filters leave any of it. -/
def Books.group (b : Books) (f : EntryFilter) (r : AccountRow) : Option TrialBalanceRow :=
  match (b.joined r.account).filter (f.KeepsJoined ·) with
  | [] => none
  | joined => some (r.total (column Line.debit joined) (column Line.credit joined))

/-- `trial_balance`: one row for each account with a posting that meets the filter, by account code.
A filter names one store or a set of stores, not both. -/
def trialBalance (b : Books) (f : EntryFilter) : Result (List TrialBalanceRow) := do
  raiseIf (f.storeId ≠ none ∧ f.storeIds ≠ none) (.validation .invalidStoreFilter)
  return (systemAccounts.insertionSort fun r r' => r.account.code ≤ r'.account.code).filterMap
    (b.group f)

/-! ### Profit and loss -/

structure ProfitAndLoss where
  storeId : Option ℕ
  dateFrom : Option Date
  dateTo : Option Date
  netSales : ℚ
  cogs : ℚ
  grossProfit : ℚ
  otherIncome : ℚ
  operatingExpenses : ℚ
  netIncome : ℚ

/-- `net_credit`: what the row of an account stands at on the credit side, and nothing if there is
no such row. -/
def netCredit (rows : List TrialBalanceRow) (code : String) : ℚ :=
  ((rows.find? (·.accountCode = code)).map fun row => row.totalCredit - row.totalDebit).getD 0

/-- `net_debit`: what an account has come to on its debit side, zero where it has no row. -/
def netDebit (rows : List TrialBalanceRow) (code : String) : ℚ := -netCredit rows code

/-- `profit_and_loss`: read off a trial balance; every expense account but the cost of goods sold is
an operating expense. -/
def profitAndLoss (b : Books) (f : EntryFilter) : Result ProfitAndLoss := do
  let rows ← trialBalance b f
  let netSales := netCredit rows Account.salesRevenue.code - netDebit rows Account.salesDiscounts.code
  let cogs := netDebit rows Account.cogs.code
  let grossProfit := netSales - cogs
  let otherIncome := netCredit rows Account.inventoryAdjustmentGain.code
  let operatingExpenses :=
    ((rows.filter fun row => row.accountType = .expense ∧ row.accountCode ≠ Account.cogs.code).map
      fun row => netDebit rows row.accountCode).sum
  let netIncome := grossProfit + otherIncome - operatingExpenses
  return {
    storeId := f.storeId
    dateFrom := f.dateFrom
    dateTo := f.dateTo
    netSales, cogs, grossProfit, otherIncome, operatingExpenses, netIncome }

/-! ### The balance sheet -/

structure BalanceSheetSummary where
  storeIds : Option (List ℕ)
  asOf : Option Date
  assets : List TrialBalanceRow
  liabilities : List TrialBalanceRow
  totalAssets : ℚ
  totalLiabilities : ℚ

/-- `_balance`: what the row comes to on the normal side of its account. -/
def TrialBalanceRow.balance (row : TrialBalanceRow) : ℚ :=
  if row.normalBalance = .debit then row.totalDebit - row.totalCredit
  else row.totalCredit - row.totalDebit

/-- `balance_sheet_summary`: assets and liabilities of a trial balance up to a day, with the
balances of their accounts summed. -/
def balanceSheetSummary (b : Books) (storeIds : Option (List ℕ)) (asOf : Option Date) :
    Result BalanceSheetSummary := do
  let rows ← trialBalance b { storeIds, dateTo := asOf }
  let assets := rows.filter (·.accountType = .asset)
  let liabilities := rows.filter (·.accountType = .liability)
  return {
    storeIds, asOf, assets, liabilities
    totalAssets := (assets.map TrialBalanceRow.balance).sum
    totalLiabilities := (liabilities.map TrialBalanceRow.balance).sum }

/-! ### What the rows say -/

variable {b : Books} {f : EntryFilter} {rows : List TrialBalanceRow}

/-- The lines of the entries that the filters keep. -/
def keptLines (b : Books) (f : EntryFilter) : List JournalLine :=
  (b.entries.filter fun e => f.Keeps e.val).flatMap fun e => e.val.lines

/-- Entries that balance balance together, whichever of them are kept. -/
theorem balanced_keptLines (b : Books) (f : EntryFilter) : Ledger.Balanced (keptLines b f) := by
  unfold keptLines
  induction b.entries.filter fun e => f.Keeps e.val with
  | nil => rfl
  | cons e es ih =>
    have he : Ledger.Balanced e.val.lines := e.property.balanced
    unfold Ledger.Balanced at ih he ⊢
    rw [List.flatMap_cons, totalDebit_append, totalCredit_append, ih, he]

/-- What the lines of one entry come to. -/
theorem column_entry (f : EntryFilter) (e : BookEntry) (a : Account) (g : JournalLine → ℚ) :
    column g ((((e.lines.filter (·.account = a)).map fun l => (e, l)).map some).filter
        (f.KeepsJoined ·))
      = if f.Keeps e then sumWhere (·.account = a) g e.lines else 0 := by
  have hkeeps : ∀ r ∈ ((e.lines.filter (·.account = a)).map fun l => (e, l)).map some,
      (f.KeepsJoined r ↔ f.Keeps e) := by
    intro r hr
    simp only [List.map_map, List.mem_map, Function.comp_apply] at hr
    obtain ⟨l, -, rfl⟩ := hr
    simp [EntryFilter.KeepsJoined]
  by_cases h : f.Keeps e
  · rw [if_pos h, List.filter_eq_self.mpr fun r hr => decide_eq_true ((hkeeps r hr).mpr h)]
    simp [column, sumWhere, Function.comp_def]
  · rw [if_neg h, List.filter_eq_nil_iff.mpr fun r hr => by simp [hkeeps r hr, h]]
    rfl

/-- **What the rows of the outer join come to is what the lines kept come to.** -/
theorem column_filter_joined (b : Books) (f : EntryFilter) (a : Account) (g : JournalLine → ℚ) :
    column g ((b.joined a).filter (f.KeepsJoined ·))
      = sumWhere (·.account = a) g (keptLines b f) := by
  have hentries : ∀ es : List (Row BookEntry),
      column g (((es.flatMap fun e => (e.val.lines.filter (·.account = a)).map
        fun l => (e.val, l)).map some).filter (f.KeepsJoined ·))
      = sumWhere (·.account = a) g ((es.filter fun e => f.Keeps e.val).flatMap
        fun e => e.val.lines) := by
    intro es
    induction es with
    | nil => rfl
    | cons e es ih =>
      rw [List.flatMap_cons, List.map_append, List.filter_append, column, List.map_append,
        List.sum_append]
      change column g _ + column g _ = _
      rw [column_entry, ih]
      by_cases h : f.Keeps e.val
      · rw [if_pos h, List.filter_cons, if_pos (decide_eq_true h), List.flatMap_cons,
          sumWhere_append]
      · rw [if_neg h, List.filter_cons, if_neg (by simpa using h), zero_add]
  unfold Books.joined keptLines
  rw [← hentries]
  split
  · next hnone => simp [hnone, column, EntryFilter.KeepsJoined]
  · rfl

/-- The sums of an account over the lines kept. -/
def AccountRow.kept (r : AccountRow) (b : Books) (f : EntryFilter) : TrialBalanceRow :=
  r.total (sumWhere (·.account = r.account) Line.debit (keptLines b f))
    (sumWhere (·.account = r.account) Line.credit (keptLines b f))

/-- A group that is missing would have had zeros in it. -/
theorem group_cases (b : Books) (f : EntryFilter) (r : AccountRow) :
    b.group f r = some (r.kept b f) ∨ b.group f r = none ∧ r.kept b f = r.total 0 0 := by
  have hdebit := column_filter_joined b f r.account Line.debit
  have hcredit := column_filter_joined b f r.account Line.credit
  unfold Books.group AccountRow.kept
  rw [← hdebit, ← hcredit]
  split
  · next hnone =>
    right
    rw [hnone]
    exact ⟨rfl, rfl⟩
  · exact .inl rfl

theorem trialBalance_ok (h : trialBalance b f = .ok rows) :
    rows = (systemAccounts.insertionSort fun r r' => r.account.code ≤ r'.account.code).filterMap
      (b.group f) := by
  unfold trialBalance at h
  simp only [↓check_bind_eq_ok, pure_eq_ok] at h
  exact h.2.symm

/-- **A sum over the rows is a sum over the chart**, where an account without lines adds
nothing. -/
theorem sum_trialBalance (h : trialBalance b f = .ok rows) (g : TrialBalanceRow → ℚ)
    (hzero : ∀ r : AccountRow, g (r.total 0 0) = 0) :
    (rows.map g).sum = (systemAccounts.map fun r => g (r.kept b f)).sum := by
  have hperm := List.perm_insertionSort
    (fun r r' : AccountRow => r.account.code ≤ r'.account.code) systemAccounts
  rw [trialBalance_ok h, ← (hperm.map fun r => g (r.kept b f)).sum_eq]
  induction systemAccounts.insertionSort fun r r' => r.account.code ≤ r'.account.code with
  | nil => rfl
  | cons r rs ih =>
    rw [List.map_cons, List.sum_cons, ← ih, List.filterMap_cons]
    rcases group_cases b f r with hsome | ⟨hnone, hkept⟩
    · rw [hsome, List.map_cons, List.sum_cons]
    · rw [hnone, hkept, hzero, zero_add]

/-- The same over some of the rows. -/
theorem sum_filter_trialBalance (h : trialBalance b f = .ok rows) (p : TrialBalanceRow → Prop)
    [DecidablePred p] (g : TrialBalanceRow → ℚ) (hzero : ∀ r : AccountRow, g (r.total 0 0) = 0) :
    ((rows.filter (p ·)).map g).sum
      = (systemAccounts.map fun r => if p (r.kept b f) then g (r.kept b f) else 0).sum := by
  have hsum := sumWhere_eq_sum_map p g rows
  rw [sumWhere] at hsum
  rw [hsum]
  refine sum_trialBalance h (fun row => if p row then g row else 0) fun r => ?_
  rw [hzero, ite_self]

/-! ### The figures -/

/-- The rows have the codes of different accounts. -/
theorem nodup_accountCode (h : trialBalance b f = .ok rows) :
    (rows.map TrialBalanceRow.accountCode).Nodup := by
  have hsorted : ((systemAccounts.insertionSort fun r r' => r.account.code ≤ r'.account.code).map
      fun r => r.account.code).Nodup :=
    ((List.perm_insertionSort _ _).map _).nodup_iff.mpr nodup_codes
  rw [trialBalance_ok h]
  refine hsorted.sublist ?_
  induction systemAccounts.insertionSort fun r r' => r.account.code ≤ r'.account.code with
  | nil => exact .slnil
  | cons r rs ih =>
    rw [List.filterMap_cons, List.map_cons]
    rcases group_cases b f r with hsome | ⟨hnone, -⟩
    · rw [hsome]
      exact ih.cons_cons _
    · rw [hnone]
      exact ih.cons _

/-- Where the codes are distinct, the row found is the only one. -/
theorem netCredit_eq_sumWhere (hn : (rows.map TrialBalanceRow.accountCode).Nodup) (code : String) :
    netCredit rows code
      = sumWhere (·.accountCode = code) (fun row => row.totalCredit - row.totalDebit) rows := by
  cases hfind : rows.find? (·.accountCode = code) with
  | none =>
    rw [List.find?_eq_none] at hfind
    rw [netCredit, List.find?_eq_none.mpr hfind]
    refine (sumWhere_eq_zero _ _ fun row hrow hcode => ?_).symm
    exact absurd (decide_eq_true hcode) (hfind row hrow)
  | some row =>
    have hcode := List.find?_some hfind
    rw [decide_eq_true_iff] at hcode
    rw [netCredit, hfind, ← hcode, sumWhere_key _ hn (List.mem_of_find?_eq_some hfind)]
    rfl

/-- What a report says of an account is what the lines kept add to it. -/
theorem netCredit_ok (h : trialBalance b f = .ok rows) (a : Account) :
    netCredit rows a.code = -net a (keptLines b f) := by
  obtain ⟨r, hr, rfl⟩ := List.mem_map.mp (mem_systemAccounts a)
  have hchart : sumWhere (fun r' : AccountRow => r'.account.code = r.account.code)
      (fun r' => (r'.kept b f).totalCredit - (r'.kept b f).totalDebit) systemAccounts
      = (r.kept b f).totalCredit - (r.kept b f).totalDebit := sumWhere_key _ nodup_codes hr
  rw [netCredit_eq_sumWhere (nodup_accountCode h), sumWhere_eq_sum_map, sum_trialBalance h, net_eq_sub,
    neg_sub]
  · rw [sumWhere_eq_sum_map] at hchart
    exact hchart
  · intro r'
    simp [AccountRow.total]

/-- The accounts of a type, in the order of the chart. -/
def accountsOf (t : AccountType) : List Account :=
  (systemAccounts.filter (·.accountType = t)).map AccountRow.account

theorem sum_accountsOf (t : AccountType) (g : Account → ℚ) : ((accountsOf t).map g).sum
    = sumWhere (·.accountType = t) (fun r => g r.account) systemAccounts := by
  rw [accountsOf, List.map_map]
  rfl

/-- A sum over some rows, of what the lines kept add to their accounts. -/
theorem sum_filter_net (h : trialBalance b f = .ok rows) {p : TrialBalanceRow → Prop}
    [DecidablePred p] (q : AccountRow → Prop) [DecidablePred q] {g : TrialBalanceRow → ℚ}
    {sign : ℚ} (hpq : ∀ r ∈ systemAccounts, ∀ d c, p (r.total d c) ↔ q r)
    (hg : ∀ r ∈ systemAccounts, q r → ∀ d c, g (r.total d c) = sign * (d - c))
    (hzero : ∀ r : AccountRow, g (r.total 0 0) = 0) :
    ((rows.filter (p ·)).map g).sum
      = sign * sumWhere q (fun r => net r.account (keptLines b f)) systemAccounts := by
  rw [sum_filter_trialBalance h p g hzero, sumWhere_eq_sum_map, ← List.sum_map_mul_left]
  congr 1
  refine List.map_congr_left fun r hr => ?_
  by_cases hq : q r
  · rw [AccountRow.kept, if_pos ((hpq r hr _ _).mpr hq), if_pos hq, hg r hr hq, net_eq_sub]
  · rw [AccountRow.kept, if_neg (mt (hpq r hr _ _).mp hq), if_neg hq, mul_zero]

/-- The figures of a profit and loss are read off the lines that the filters keep. -/
structure ProfitAndLoss.Reads (p : ProfitAndLoss) (ls : List JournalLine) : Prop where
  netSales : p.netSales = -net .salesRevenue ls - net .salesDiscounts ls
  cogs : p.cogs = net .cogs ls
  grossProfit : p.grossProfit = p.netSales - p.cogs
  otherIncome : p.otherIncome = -net .inventoryAdjustmentGain ls
  operatingExpenses : p.operatingExpenses
    = ((accountsOf .expense).map fun a => net a ls).sum - net .cogs ls
  netIncome : p.netIncome = p.grossProfit + p.otherIncome - p.operatingExpenses

/-- **The profit and loss is that of the lines kept.** -/
theorem profitAndLoss_ok {p : ProfitAndLoss} (h : profitAndLoss b f = .ok p) :
    p.Reads (keptLines b f) := by
  unfold profitAndLoss at h
  simp only [bind_eq_ok, pure_eq_ok] at h
  obtain ⟨rows, hrows, rfl⟩ := h
  refine ⟨?_, ?_, rfl, ?_, ?_, rfl⟩
  · simp only [netDebit, netCredit_ok hrows]
    ring
  · simp only [netDebit, netCredit_ok hrows, neg_neg]
  · simp only [netCredit_ok hrows]
  · -- an expense other than the cost of goods sold is that of its own row
    have hrow : ∀ row ∈ rows, netDebit rows row.accountCode = row.totalDebit - row.totalCredit := by
      intro row hrow
      have hn := nodup_accountCode hrows
      rw [netDebit, netCredit_eq_sumWhere hn, sumWhere_key _ hn hrow, neg_sub]
    have hexpenses : sumWhere (·.accountType = .expense)
        (fun r => net r.account (keptLines b f)) systemAccounts
        = sumWhere (fun r => r.accountType = .expense ∧ r.account.code ≠ Account.cogs.code)
            (fun r => net r.account (keptLines b f)) systemAccounts
          + sumWhere (fun r => r.account = .cogs) (fun r => net r.account (keptLines b f))
            systemAccounts :=
      sumWhere_or (by decide +kernel) (by decide +kernel)
    have hcogs : sumWhere (fun r => r.account = .cogs) (fun r => net r.account (keptLines b f))
        systemAccounts = net .cogs (keptLines b f) :=
      sumWhere_key (a := ⟨.cogs, "Cost of Goods Sold", .expense, .debit⟩) _ nodup_systemAccounts
        (by decide +kernel)
    rw [List.map_congr_left fun row hmem => hrow row (List.mem_of_mem_filter hmem),
      sum_filter_net hrows (fun r => r.accountType = .expense ∧ r.account.code ≠ Account.cogs.code)
        (fun _ _ _ _ => Iff.rfl) (fun _ _ _ d c => (one_mul (d - c)).symm)
        fun r => by simp [AccountRow.total],
      sum_accountsOf, hexpenses, hcogs, one_mul, add_sub_cancel_right]

/-- The figures of a balance sheet are read off the lines that the filters keep. -/
structure BalanceSheetSummary.Reads (s : BalanceSheetSummary) (ls : List JournalLine) : Prop where
  totalAssets : s.totalAssets = ((accountsOf .asset).map fun a => net a ls).sum
  totalLiabilities : s.totalLiabilities = -((accountsOf .liability).map fun a => net a ls).sum

/-- **The balance sheet is that of the lines kept.** -/
theorem balanceSheetSummary_ok {storeIds : Option (List ℕ)} {asOf : Option Date}
    {s : BalanceSheetSummary} (h : balanceSheetSummary b storeIds asOf = .ok s) :
    s.Reads (keptLines b { storeIds, dateTo := asOf }) := by
  unfold balanceSheetSummary at h
  simp only [bind_eq_ok, pure_eq_ok] at h
  obtain ⟨rows, hrows, rfl⟩ := h
  have hzero : ∀ r : AccountRow, (r.total 0 0).balance = 0 := by
    intro r
    simp [TrialBalanceRow.balance, AccountRow.total]
  -- every asset has its balance on the debit side, every liability on the credit side
  have hasset : ∀ r ∈ systemAccounts, r.accountType = .asset → r.normalBalance = .debit := by
    decide +kernel
  have hliability : ∀ r ∈ systemAccounts, r.accountType = .liability →
      r.normalBalance = .credit := by
    decide +kernel
  constructor
  · dsimp only
    rw [sum_accountsOf, sum_filter_net hrows (·.accountType = .asset)
      (fun _ _ _ _ => Iff.rfl) ?_ hzero, one_mul]
    intro r hr hq d c
    have hside : (r.total d c).normalBalance = .debit := hasset r hr hq
    rw [TrialBalanceRow.balance, if_pos hside, one_mul]
    rfl
  · dsimp only
    rw [sum_accountsOf, sum_filter_net hrows (·.accountType = .liability)
      (fun _ _ _ _ => Iff.rfl) ?_ hzero, neg_one_mul]
    intro r hr hq d c
    have hside : (r.total d c).normalBalance = .credit := hliability r hr hq
    rw [TrialBalanceRow.balance, if_neg (by rw [hside]; decide), neg_one_mul, neg_sub]
    rfl

/-! ### Splitting what is kept -/

/-- Each entry that `f` keeps is kept by one of `f₁` and `f₂`, and not by both. -/
def EntryFilter.Splits (f f₁ f₂ : EntryFilter) : Prop :=
  ∀ e, (f.Keeps e ↔ f₁.Keeps e ∨ f₂.Keeps e) ∧ (f₁.Keeps e → ¬f₂.Keeps e)

/-- The dates are the same, and the stores of `f` are those of `f₁` and those of `f₂`, which
have none in common. -/
structure EntryFilter.SplitsStores (f f₁ f₂ : EntryFilter) : Prop where
  stores : ∀ s, f.HasStore s ↔ f₁.HasStore s ∨ f₂.HasStore s
  disjoint : ∀ s, f₁.HasStore s → ¬f₂.HasStore s
  dateFrom : f₁.dateFrom = f.dateFrom ∧ f₂.dateFrom = f.dateFrom
  dateTo : f₁.dateTo = f.dateTo ∧ f₂.dateTo = f.dateTo

/-- The stores are the same, and `f₂` begins on the day after `f₁` ends. -/
structure EntryFilter.SplitsDates (f f₁ f₂ : EntryFilter) (lastDay : Date) : Prop where
  storeId : f₁.storeId = f.storeId ∧ f₂.storeId = f.storeId
  storeIds : f₁.storeIds = f.storeIds ∧ f₂.storeIds = f.storeIds
  dateFrom : f₁.dateFrom = f.dateFrom ∧ f₂.dateFrom = some (lastDay + 1)
  dateTo : f₁.dateTo = some lastDay ∧ f₂.dateTo = f.dateTo
  begins : ∀ a ∈ f.dateFrom, a ≤ lastDay + 1
  ends : ∀ z ∈ f.dateTo, lastDay ≤ z

variable {f₁ f₂ : EntryFilter}

theorem EntryFilter.SplitsStores.splits (h : f.SplitsStores f₁ f₂) : f.Splits f₁ f₂ := by
  intro e
  have hdate₁ : f₁.HasDate e.postingDate ↔ f.HasDate e.postingDate := by
    simp only [HasDate, h.dateFrom.1, h.dateTo.1]
  have hdate₂ : f₂.HasDate e.postingDate ↔ f.HasDate e.postingDate := by
    simp only [HasDate, h.dateFrom.2, h.dateTo.2]
  constructor
  · simp only [Keeps, hdate₁, hdate₂, h.stores, or_and_right]
  · intro hkeeps₁ hkeeps₂
    exact h.disjoint _ hkeeps₁.1 hkeeps₂.1

theorem EntryFilter.SplitsDates.splits {lastDay : Date} (h : f.SplitsDates f₁ f₂ lastDay) :
    f.Splits f₁ f₂ := by
  intro e
  have hstore₁ : f₁.HasStore e.storeId ↔ f.HasStore e.storeId := by
    simp only [HasStore, h.storeId.1, h.storeIds.1]
  have hstore₂ : f₂.HasStore e.storeId ↔ f.HasStore e.storeId := by
    simp only [HasStore, h.storeId.2, h.storeIds.2]
  -- a day is on one side of the split or the other
  have hdates : (f.HasDate e.postingDate ↔ f₁.HasDate e.postingDate ∨ f₂.HasDate e.postingDate) ∧
      (f₁.HasDate e.postingDate → ¬f₂.HasDate e.postingDate) := by
    simp only [HasDate, h.dateFrom.1, h.dateFrom.2, h.dateTo.1, h.dateTo.2, Option.mem_some,
      forall_eq']
    have hbegins := h.begins
    have hends := h.ends
    generalize f.dateFrom = a at hbegins ⊢
    generalize f.dateTo = z at hends ⊢
    generalize e.postingDate = d
    constructor
    · constructor
      · rintro ⟨ha, hz⟩
        by_cases hd : d ≤ lastDay
        · exact .inl ⟨ha, hd⟩
        · exact .inr ⟨Int.add_one_le_of_lt (not_le.mp hd), hz⟩
      · rintro (⟨ha, hd⟩ | ⟨hd, hz⟩)
        · exact ⟨ha, fun x hx => hd.trans (hends x hx)⟩
        · exact ⟨fun x hx => (hbegins x hx).trans hd, hz⟩
    · rintro ⟨-, hd⟩ ⟨hd', -⟩
      exact absurd (Int.lt_of_add_one_le hd') (not_lt.mpr hd)
  constructor
  · simp only [Keeps, hstore₁, hstore₂, hdates.1, and_or_left]
  · intro hkeeps₁ hkeeps₂
    exact hdates.2 hkeeps₁.2 hkeeps₂.2

/-- **The lines kept are those kept by the one and those kept by the other.** -/
theorem EntryFilter.Splits.sumWhere_keptLines (h : f.Splits f₁ f₂) (b : Books)
    (p : JournalLine → Prop) [DecidablePred p] (g : JournalLine → ℚ) :
    sumWhere p g (keptLines b f)
      = sumWhere p g (keptLines b f₁) + sumWhere p g (keptLines b f₂) := by
  have hkept : ∀ f : EntryFilter, sumWhere p g (keptLines b f)
      = sumWhere (fun e : Row BookEntry => f.Keeps e.val) (fun e => sumWhere p g e.val.lines)
        b.entries := by
    intro f
    rw [keptLines, sumWhere_flatMap]
    rfl
  rw [hkept, hkept, hkept]
  exact sumWhere_or (fun e _ => (h e.val).1) fun e _ => (h e.val).2

theorem EntryFilter.Splits.net_keptLines (h : f.Splits f₁ f₂) (b : Books) (a : Account) :
    net a (keptLines b f) = net a (keptLines b f₁) + net a (keptLines b f₂) :=
  h.sumWhere_keptLines b _ _

/-! ### The reports agree -/

/-- The sums of every account are the sums of the two. -/
def TrialBalancesAdd (rows rows₁ rows₂ : List TrialBalanceRow) : Prop :=
  ∀ code, sumWhere (·.accountCode = code) (·.totalDebit) rows
      = sumWhere (·.accountCode = code) (·.totalDebit) rows₁
        + sumWhere (·.accountCode = code) (·.totalDebit) rows₂ ∧
    sumWhere (·.accountCode = code) (·.totalCredit) rows
      = sumWhere (·.accountCode = code) (·.totalCredit) rows₁
        + sumWhere (·.accountCode = code) (·.totalCredit) rows₂

/-- Every figure of one profit and loss is the sum of the figures of two others. -/
structure ProfitAndLoss.Adds (p p₁ p₂ : ProfitAndLoss) : Prop where
  netSales : p.netSales = p₁.netSales + p₂.netSales
  cogs : p.cogs = p₁.cogs + p₂.cogs
  grossProfit : p.grossProfit = p₁.grossProfit + p₂.grossProfit
  otherIncome : p.otherIncome = p₁.otherIncome + p₂.otherIncome
  operatingExpenses : p.operatingExpenses = p₁.operatingExpenses + p₂.operatingExpenses
  netIncome : p.netIncome = p₁.netIncome + p₂.netIncome

/-- Both totals of one balance sheet are the sums of the totals of two others. -/
structure BalanceSheetSummary.Adds (s s₁ s₂ : BalanceSheetSummary) : Prop where
  totalAssets : s.totalAssets = s₁.totalAssets + s₂.totalAssets
  totalLiabilities : s.totalLiabilities = s₁.totalLiabilities + s₂.totalLiabilities

variable {rows₁ rows₂ : List TrialBalanceRow} {p p₁ p₂ : ProfitAndLoss}
  {s s₁ s₂ : BalanceSheetSummary} {ls ls₁ ls₂ : List JournalLine}

/-- **The trial balance balances**: over all the rows it reports, whatever the filter, debits are
credits. -/
theorem sum_totalDebit_trialBalance (h : trialBalance b f = .ok rows) :
    (rows.map (·.totalDebit)).sum = (rows.map (·.totalCredit)).sum := by
  have hnet : (systemAccounts.map fun r => net r.account (keptLines b f)).sum = 0 := by
    have hall := sum_net_of_balanced nodup_systemAccounts
      (fun l _ => mem_systemAccounts l.account) (balanced_keptLines b f)
    rw [List.map_map] at hall
    exact hall
  have hsides : ∀ row ∈ rows,
      row.totalDebit = row.totalCredit + (row.totalDebit - row.totalCredit) :=
    fun row _ => (add_sub_cancel _ _).symm
  have hrows : (rows.map fun row => row.totalDebit - row.totalCredit).sum = 0 := by
    rw [sum_trialBalance h _ fun _ => sub_self 0, ← hnet]
    congr 1
    refine List.map_congr_left fun r _ => ?_
    rw [net_eq_sub]
    rfl
  rw [List.map_congr_left hsides, List.sum_map_add, hrows, add_zero]

/-- Every account is of one of the four types. -/
theorem perm_accountsOf : (systemAccounts.map AccountRow.account).Perm
    (accountsOf .asset ++ accountsOf .liability ++ (accountsOf .revenue ++ accountsOf .expense)) := by
  decide +kernel

/-- What balances leaves in assets less liabilities what it has not spent of its income. -/
theorem sum_net_accountsOf (hb : Ledger.Balanced ls) :
    ((accountsOf .asset).map fun a => net a ls).sum
        + ((accountsOf .liability).map fun a => net a ls).sum
      = -((accountsOf .revenue ++ accountsOf .expense).map fun a => net a ls).sum := by
  have hall := sum_net_of_balanced nodup_systemAccounts (fun l _ => mem_systemAccounts l.account) hb
  rw [(perm_accountsOf.map fun a => net a ls).sum_eq, List.map_append, List.sum_append,
    List.map_append, List.sum_append] at hall
  exact eq_neg_of_add_eq_zero_left hall

/-- The net income is what the lines credit to revenues and expenses. -/
theorem ProfitAndLoss.Reads.netIncome_eq (h : p.Reads ls) :
    p.netIncome = -((accountsOf .revenue ++ accountsOf .expense).map fun a => net a ls).sum := by
  have hrevenue : accountsOf .revenue
      = [.salesRevenue, .salesDiscounts, .inventoryAdjustmentGain] := by decide +kernel
  rw [h.netIncome, h.grossProfit, h.netSales, h.cogs, h.otherIncome, h.operatingExpenses,
    List.map_append, List.sum_append, hrevenue]
  simp only [List.map_cons, List.map_nil, List.sum_cons, List.sum_nil]
  ring

/-- Figures read off lines that add up add up. -/
theorem ProfitAndLoss.Reads.adds (h : p.Reads ls) (h₁ : p₁.Reads ls₁) (h₂ : p₂.Reads ls₂)
    (hnet : ∀ a, net a ls = net a ls₁ + net a ls₂) : p.Adds p₁ p₂ := by
  have hsales : p.netSales = p₁.netSales + p₂.netSales := by
    rw [h.netSales, h₁.netSales, h₂.netSales, hnet, hnet]
    ring
  have hcogs : p.cogs = p₁.cogs + p₂.cogs := by rw [h.cogs, h₁.cogs, h₂.cogs, hnet]
  have hgross : p.grossProfit = p₁.grossProfit + p₂.grossProfit := by
    rw [h.grossProfit, h₁.grossProfit, h₂.grossProfit, hsales, hcogs]
    ring
  have hother : p.otherIncome = p₁.otherIncome + p₂.otherIncome := by
    rw [h.otherIncome, h₁.otherIncome, h₂.otherIncome, hnet]
    ring
  have hoperating : p.operatingExpenses = p₁.operatingExpenses + p₂.operatingExpenses := by
    rw [h.operatingExpenses, h₁.operatingExpenses, h₂.operatingExpenses]
    simp only [hnet, List.sum_map_add]
    ring
  refine ⟨hsales, hcogs, hgross, hother, hoperating, ?_⟩
  rw [h.netIncome, h₁.netIncome, h₂.netIncome, hgross, hother, hoperating]
  ring

theorem BalanceSheetSummary.Reads.adds (h : s.Reads ls) (h₁ : s₁.Reads ls₁) (h₂ : s₂.Reads ls₂)
    (hnet : ∀ a, net a ls = net a ls₁ + net a ls₂) : s.Adds s₁ s₂ := by
  constructor
  · rw [h.totalAssets, h₁.totalAssets, h₂.totalAssets]
    simp only [hnet, List.sum_map_add]
  · rw [h.totalLiabilities, h₁.totalLiabilities, h₂.totalLiabilities]
    simp only [hnet, List.sum_map_add]
    ring

/-- The trial balance of what is kept is that of its parts. -/
theorem EntryFilter.Splits.trialBalancesAdd (hsplits : f.Splits f₁ f₂)
    (h : trialBalance b f = .ok rows) (h₁ : trialBalance b f₁ = .ok rows₁)
    (h₂ : trialBalance b f₂ = .ok rows₂) : TrialBalancesAdd rows rows₁ rows₂ := by
  have hcolumn : ∀ (code : String) (g : TrialBalanceRow → ℚ) (column : JournalLine → ℚ),
      (∀ r : AccountRow, g (r.total 0 0) = 0) →
      (∀ (r : AccountRow) (f : EntryFilter), g (r.kept b f)
        = sumWhere (·.account = r.account) column (keptLines b f)) →
      sumWhere (·.accountCode = code) g rows = sumWhere (·.accountCode = code) g rows₁
        + sumWhere (·.accountCode = code) g rows₂ := by
    intro code g column hzero hkept
    unfold sumWhere
    rw [sum_filter_trialBalance h _ g hzero, sum_filter_trialBalance h₁ _ g hzero,
      sum_filter_trialBalance h₂ _ g hzero, ← List.sum_map_add]
    congr 1
    refine List.map_congr_left fun r _ => ?_
    -- the code of a row does not depend on the filters
    change (if r.account.code = code then g (r.kept b f) else 0)
      = (if r.account.code = code then g (r.kept b f₁) else 0)
        + if r.account.code = code then g (r.kept b f₂) else 0
    by_cases hcode : r.account.code = code
    · simp only [if_pos hcode, hkept, hsplits.sumWhere_keptLines b]
    · simp only [if_neg hcode, add_zero]
  intro code
  exact ⟨hcolumn code _ Line.debit (fun _ => rfl) fun _ _ => rfl,
    hcolumn code _ Line.credit (fun _ => rfl) fun _ _ => rfl⟩

/-- **The three reports agree.**  Debits are credits, the net income is what revenues and
expenses come to, assets less liabilities are the net income up to the day; all three add up
over stores, and the first two over dates. -/
theorem reports_agree (b : Books) :
    (∀ f rows, trialBalance b f = .ok rows →
      (rows.map (·.totalDebit)).sum = (rows.map (·.totalCredit)).sum) ∧
    (∀ f p, profitAndLoss b f = .ok p → p.netIncome
      = sumWhere (·.account ∈ accountsOf .revenue ++ accountsOf .expense) Line.credit (keptLines b f)
        - sumWhere (·.account ∈ accountsOf .revenue ++ accountsOf .expense) Line.debit
            (keptLines b f)) ∧
    (∀ storeIds asOf s p, balanceSheetSummary b storeIds asOf = .ok s →
      profitAndLoss b { storeIds, dateTo := asOf } = .ok p →
      s.totalAssets - s.totalLiabilities = p.netIncome) ∧
    (∀ f f₁ f₂ : EntryFilter, (f.SplitsStores f₁ f₂ ∨ ∃ lastDay, f.SplitsDates f₁ f₂ lastDay) →
      (∀ rows rows₁ rows₂, trialBalance b f = .ok rows → trialBalance b f₁ = .ok rows₁ →
        trialBalance b f₂ = .ok rows₂ → TrialBalancesAdd rows rows₁ rows₂) ∧
      ∀ p p₁ p₂, profitAndLoss b f = .ok p → profitAndLoss b f₁ = .ok p₁ →
        profitAndLoss b f₂ = .ok p₂ → p.Adds p₁ p₂) ∧
    ∀ asOf (storeIds storeIds₁ storeIds₂ : Option (List ℕ)),
      EntryFilter.SplitsStores { storeIds, dateTo := asOf } { storeIds := storeIds₁, dateTo := asOf }
        { storeIds := storeIds₂, dateTo := asOf } →
      ∀ s s₁ s₂, balanceSheetSummary b storeIds asOf = .ok s →
        balanceSheetSummary b storeIds₁ asOf = .ok s₁ →
        balanceSheetSummary b storeIds₂ asOf = .ok s₂ → s.Adds s₁ s₂ := by
  refine ⟨fun f rows h => sum_totalDebit_trialBalance h, ?_, ?_, ?_, ?_⟩
  -- the net income is read off the rows of the two groups of accounts, which no account is in twice
  · intro f p h
    have hnodup : (accountsOf .revenue ++ accountsOf .expense).Nodup := by decide +kernel
    rw [(profitAndLoss_ok h).netIncome_eq, sum_net hnodup, sumWhere_sub, neg_sub]
  · intro storeIds asOf s p hs hp
    have hreads := balanceSheetSummary_ok hs
    rw [hreads.totalAssets, hreads.totalLiabilities, sub_neg_eq_add,
      sum_net_accountsOf (balanced_keptLines b _), (profitAndLoss_ok hp).netIncome_eq]
  -- for either split, what is kept of the lines is split, and the reports are sums over these
  · intro f f₁ f₂ hsplit
    have hsplits : f.Splits f₁ f₂ := by
      rcases hsplit with hstores | ⟨lastDay, hdates⟩
      · exact hstores.splits
      · exact hdates.splits
    exact ⟨fun rows rows₁ rows₂ h h₁ h₂ => hsplits.trialBalancesAdd h h₁ h₂,
      fun p p₁ p₂ h h₁ h₂ => (profitAndLoss_ok h).adds (profitAndLoss_ok h₁) (profitAndLoss_ok h₂)
        (hsplits.net_keptLines b)⟩
  · intro asOf storeIds storeIds₁ storeIds₂ hstores s s₁ s₂ h h₁ h₂
    exact (balanceSheetSummary_ok h).adds (balanceSheetSummary_ok h₁) (balanceSheetSummary_ok h₂)
      (hstores.splits.net_keptLines b)

/-- Two stores: the first sells for 10, of which 2 are tax, what cost 5, and the second pays
wages of 3. -/
def twoStoresBooks : Books where
  entries := [
    ⟨⟨0, 1, .automated .sale 0, none, [⟨.cashOnHand, 10, 0⟩, ⟨.salesRevenue, 0, 8⟩,
      ⟨.taxPayable, 0, 2⟩, ⟨.cogs, 5, 0⟩, ⟨.inventory, 0, 5⟩]⟩, by decide +kernel⟩,
    ⟨⟨1, 2, .manual, none, [⟨.wageSalaryExpense, 3, 0⟩, ⟨.payrollPayable, 0, 3⟩]⟩,
      by decide +kernel⟩]

/-- Nothing is left of what the first store earns and the second pays. -/
theorem reports_agree_two_stores :
    (∃ s p, balanceSheetSummary twoStoresBooks none (some 2) = .ok s ∧
      profitAndLoss twoStoresBooks { dateTo := some 2 } = .ok p ∧
      s.totalAssets = 5 ∧ s.totalLiabilities = 5 ∧ p.netIncome = 0 ∧
      s.totalAssets - s.totalLiabilities = p.netIncome) ∧
    ∃ p p₁ p₂, profitAndLoss twoStoresBooks { storeIds := some [0, 1] } = .ok p ∧
      profitAndLoss twoStoresBooks { storeIds := some [0] } = .ok p₁ ∧
      profitAndLoss twoStoresBooks { storeIds := some [1] } = .ok p₂ ∧
      p₁.netIncome = 3 ∧ p₂.netIncome = -3 ∧ p.Adds p₁ p₂ := by
  obtain ⟨-, -, hsheet, hadds, -⟩ := reports_agree twoStoresBooks
  refine ⟨⟨_, _, rfl, rfl, ?_, ?_, ?_, hsheet none (some 2) _ _ rfl rfl⟩,
    ⟨_, _, _, rfl, rfl, rfl, ?_, ?_, ?_⟩⟩
  · decide +kernel
  · decide +kernel
  · decide +kernel
  · decide +kernel
  · decide +kernel
  · have hstores : EntryFilter.SplitsStores { storeIds := some [0, 1] } { storeIds := some [0] }
        { storeIds := some [1] } := by
      refine ⟨?_, ?_, ⟨rfl, rfl⟩, ⟨rfl, rfl⟩⟩
      · intro s
        simp [EntryFilter.HasStore]
      · intro s hs₀ hs₁
        simp only [EntryFilter.HasStore, List.mem_singleton] at hs₀ hs₁
        omega
    exact (hadds _ _ _ (.inl hstores)).2 _ _ _ rfl rfl rfl

end GroceryErp
