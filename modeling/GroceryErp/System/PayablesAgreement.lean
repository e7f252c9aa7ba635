import GroceryErp.System.Compensations
import GroceryErp.System.OffPayables

/-!
# The reports of accounts payable agree

What is owed to suppliers is kept three times: in the balances of the invoices, on Accounts
Payable, and in the documents that a statement lists.  Whatever requests are made in between, the
three say the same, and so do the reports that read them.

## Main definitions

* `ErpRequest.AtCents` — payments and credit notes are allocated in whole cents.
* `BeforePayables` — nothing has been owed yet.

## Main results

* `exec_liability` — every request moves the three alike.
* `liabilitiesAgree_of_reaches` — so they agree over any run.
* `payables_agree` — and so do reconciliation, aging, summary and statement.
* `discrepancy_of_half_a_cent` — a payment that is not in whole cents leaves a discrepancy.

## References

`backend/app/modules/ap/service.py`.
-/

namespace GroceryErp

open Decimal Ledger Outcome Rows Runs

namespace ErpRequest

/-- The amounts that are allocated have at most two decimals. -/
def AtCents (db : Db) : ErpRequest → Prop
  | settlement r => r.AtCents db
  | _ => True

instance decidableAtCents (db : Db) (r : ErpRequest) : Decidable (AtCents db r) := by
  unfold AtCents
  split <;> infer_instance

end ErpRequest

/-- Tables in which nothing has been invoiced, and nothing posted to Accounts Payable. -/
structure BeforePayables (db : Db) : Prop where
  payables : db.payables = {}
  entries : ∀ e ∈ db.ledger.entries, ∀ l ∈ e.val.lines, l.account ≠ .accountsPayable

section Steps

variable {db d db' : Db}

/-! ### Where a run starts -/

theorem BeforePayables.standing (h : BeforePayables db) : PayablesStanding db where
  books way := by
    cases way <;> constructor <;> simp [SettlementWay.book, h.payables]
  invoices i invoice hrow := by simp [h.payables] at hrow
  allocated way d document hdocument := by
    cases way <;> simp [SettlementWay.documentRows, h.payables] at hdocument

theorem BeforePayables.agree (h : BeforePayables db) : LiabilitiesAgree db where
  ledger p _ := by
    have hnone : sumWhere (fun e => p e.val.storeId) (entryNet .accountsPayable)
        db.ledger.entries = 0 := by
      refine sumWhere_eq_zero _ _ fun e he _ => ?_
      exact sumWhere_eq_zero _ _ fun l hl hon => absurd hon (h.entries e he l hl)
    unfold ledgerOwed owedBy
    rw [hnone, h.payables, neg_zero]
    rfl
  statement p _ := by
    unfold statementTotal invoicedBy SettlementWay.recorded SettlementWay.takenBack
      SettlementWay.documentRows SettlementWay.book owedBy
    rw [h.payables]
    simp

/-! ### One request -/

/-- A request that leaves the payables alone, and owes nothing. -/
theorem LiabilityStep.kept (h : PayablesStanding db) (hpayables : db'.payables = db.payables)
    (howed : OwedKept db db') : LiabilityStep db db' where
  standing := by
    have hbooks : ∀ way : SettlementWay, way.book db' = way.book db :=
      fun way => by cases way <;> simp only [SettlementWay.book, hpayables]
    refine ⟨fun way => hbooks way ▸ h.books way, fun i invoice hrow => ?_,
      fun way d document hdocument => ?_⟩
    · rw [hpayables] at hrow
      refine (h.invoices i invoice hrow).untouched (fun way => by rw [hbooks]) fun way => ?_
      rw [hbooks]
      exact id
    · unfold OfParties SettlementWay.documentRows at *
      rw [hpayables] at hdocument ⊢
      rw [hbooks]
      exact h.allocated way d document hdocument
  moved := ⟨0, 0, 0, .of_eq hpayables howed⟩

/-- A commit rounds nothing of the payables. -/
theorem LiabilityStep.commit (h : LiabilityStep db db') : LiabilityStep db db'.commit where
  standing := by
    have hkept : LiabilityStep db' db'.commit := .kept h.standing rfl (.of_eq rfl)
    exact hkept.standing
  moved := by
    obtain ⟨s, u, x, hmoved⟩ := h.moved
    exact ⟨s, u, x, hmoved.commit⟩

theorem settlement_liability {r : SettlementRequest} (h : PayablesStanding db)
    (hcents : r.AtCents db) (hdone : r.run db = .ok db') : LiabilityStep db db' := by
  cases r with
  | recordSupplierPayment req =>
    obtain ⟨⟨d, i⟩, hrun, rfl⟩ := map_eq_ok.mp hdone
    exact recordSupplierPayment_liability h hcents hrun
  | createSupplierCreditNote req =>
    obtain ⟨⟨d, i⟩, hrun, rfl⟩ := map_eq_ok.mp hdone
    exact createSupplierCreditNote_liability h hcents hrun
  | reverseSupplierPayment req => exact reverseSupplierPayment_liability h hdone
  | reverseSupplierCreditNote req => exact reverseSupplierCreditNote_liability h hdone
  | voidPurchaseInvoice req => exact voidPurchaseInvoice_liability h hdone

/-- **Every request moves the three accounts of what is owed alike.** -/
theorem exec_liability {r : ErpRequest} (h : PayablesStanding db) (hcents : r.AtCents db)
    (hdone : r.exec db = .ok db') : LiabilityStep db db' := by
  cases r with
  | stock r =>
    obtain ⟨d, hrun, rfl⟩ := map_eq_ok.mp hdone
    have haside := StockRequest.aside hrun
    exact (LiabilityStep.kept h haside.payables (StockRequest.owedKept hrun)).commit
  | transfer r =>
    obtain ⟨d, hrun, rfl⟩ := map_eq_ok.mp hdone
    obtain ⟨hpayables, howed⟩ := TransferRequest.owedKept hrun
    exact (LiabilityStep.kept h hpayables howed).commit
  | createPurchaseInvoice req =>
    obtain ⟨⟨d, i⟩, hrun, rfl⟩ := map_eq_ok.mp hdone
    exact (createPurchaseInvoice_liability h hrun).commit
  | postPurchaseInvoice req =>
    obtain ⟨d, hrun, rfl⟩ := map_eq_ok.mp hdone
    exact (postPurchaseInvoice_liability h hrun).commit
  | settlement r =>
    obtain ⟨d, hrun, rfl⟩ := map_eq_ok.mp hdone
    exact (settlement_liability h hcents hrun).commit
  | workforce r =>
    have hframe := exec_frame hdone
    exact .kept h (by rw [hframe]) (exec_payrollStep hdone).owedKept
  | closeAccountingPeriod req =>
    obtain ⟨books, -, rfl⟩ := map_eq_ok.mp hdone
    exact .kept h rfl (.of_eq rfl)

/-! ### Runs -/

/-- **Over any run, invoices, entries and documents say the same of what is owed.** -/
theorem liabilitiesAgree_of_reaches (hstart : BeforePayables db)
    (h : Reaches ErpRequest.exec ErpRequest.AtCents db db') : LiabilitiesAgree db' := by
  have hboth : PayablesStanding db' ∧ LiabilitiesAgree db' := by
    refine h.invariant (I := fun t => PayablesStanding t ∧ LiabilitiesAgree t)
      ⟨hstart.standing, hstart.agree⟩ fun r t t' ht hcents hdone => ?_
    obtain ⟨hstanding, s, u, x, hmoved⟩ := exec_liability ht.1 hcents hdone
    exact ⟨hstanding, ht.2.moved hmoved⟩
  exact hboth.2

/-- The reports read the entries of the tables. -/
theorem net_keptLines_books (a : Account) (storeId : Option ℕ) (storeIds : Option (List ℕ)) :
    net a (keptLines db.books { storeId, storeIds })
      = sumWhere (fun e => ({ storeId, storeIds } : EntryFilter).HasStore e.val.storeId)
          (entryNet a) db.ledger.entries := by
  have hkept : ∀ e : BookEntry, ({ storeId, storeIds } : EntryFilter).Keeps e
      ↔ ({ storeId, storeIds } : EntryFilter).HasStore e.storeId := by
    intro e
    exact and_iff_left ⟨fun a ha => (Option.not_mem_none a ha).elim,
      fun b hb => (Option.not_mem_none b hb).elim⟩
  unfold net keptLines
  rw [sumWhere_flatMap]
  simp only [hkept]
  exact sumWhere_map (fun e : Row BookEntry =>
    ({ storeId, storeIds } : EntryFilter).HasStore e.val.storeId) (fun e => net a e.val.lines)
    bookRow db.ledger.entries

/-- **Reconciliation, aging, summary and statement agree**, for any stores, any supplier and any
day: there is no discrepancy between Accounts Payable and the invoices, the aging comes to the same
total, and for a supplier its rows, the summary and the statement say the same. -/
theorem payables_agree (hstart : BeforePayables db)
    (h : Reaches ErpRequest.exec ErpRequest.AtCents db db') (asOf : Date) :
    (∀ (storeId : Option ℕ) (storeIds : Option (List ℕ)) (row : ApReconciliationRow),
      apReconciliation db' storeId storeIds = .ok row →
        row.discrepancy = 0 ∧
        row.apSubledgerTotal = ((apAging db' storeId storeIds asOf).map (·.total)).sum) ∧
    ∀ (supplierId : ℕ) (storeId : Option ℕ) (times : RowTimes) (summary : SupplierApSummary),
      supplierApSummary db' supplierId asOf storeId = .ok summary →
        summary.totalOwed
          = sumWhere (·.supplierId = supplierId) (·.total) (apAging db' storeId none asOf) ∧
        summary.totalCurrent
          = sumWhere (·.supplierId = supplierId) (·.current) (apAging db' storeId none asOf) ∧
        summary.totalOwed
          = (supplierStatement db' times supplierId storeId none none).closingBalance := by
  have hagree := liabilitiesAgree_of_reaches hstart h
  constructor
  · intro storeId storeIds row hrow
    unfold apReconciliation at hrow
    simp only [bind_eq_ok, pure_eq_ok] at hrow
    obtain ⟨rows, hrows, rfl⟩ := hrow
    dsimp only
    -- the balances of the outstanding invoices are what all invoices owe, as the others owe nothing
    have hsubledger : sumWhere (fun i => i.val.status.IsOutstanding ∧
          ({ storeId, storeIds } : EntryFilter).HasStore i.val.storeId) (·.val.outstandingBalance)
          db'.payables.invoices
        = owedBy db' fun s _ => ({ storeId, storeIds } : EntryFilter).HasStore s := by
      unfold owedBy PurchaseInvoice.owed
      rw [sumWhere_eq_sum_map, sumWhere_eq_sum_map]
      congr 1
      refine List.map_congr_left fun i _ => ?_
      split_ifs <;> first | rfl | tauto
    have hledger := hagree.ledger fun s => ({ storeId, storeIds } : EntryFilter).HasStore s
    rw [netCredit_ok hrows, hsubledger, sum_apAging, net_keptLines_books]
    exact ⟨sub_eq_zero.mpr hledger, rfl⟩
  -- the three read the same table of invoices, each with a sum of its own
  · intro supplierId storeId times summary hsummary
    obtain ⟨howed, hcurrent⟩ := supplierApSummary_ok hsummary
    obtain ⟨htotal, hbucket⟩ := @apAging_supplier db' storeId none asOf supplierId
    have hstores : ∀ s, InStore storeId s ↔ ({ storeId, storeIds := none } : EntryFilter).HasStore s :=
      fun s => Iff.rfl
    refine ⟨?_, ?_, ?_⟩
    · rw [howed, htotal]
      exact sumWhere_congr (fun i _ => and_congr_right' (hstores _)) fun _ _ _ => rfl
    · rw [hcurrent, hbucket]
      exact sumWhere_congr (fun i _ => and_congr_right' (hstores _)) fun _ _ _ => rfl
    · rw [howed, supplierStatement_closing, hagree.statement]

end Steps

/-! ### Apples that are partly paid -/

theorem greengrocer_beforePayables : BeforePayables greengrocer where
  payables := rfl
  entries := by simp [greengrocer]

/-- Seven apples are delivered and billed, and some of the bill is paid. -/
def partlyPaid (amount : ℚ) : List ErpRequest := (payAndTakeBack amount).dropLast

/-- Four of the seven are paid. -/
def applesPartlyPaid : Db :=
  value ((partlyPaid 4).foldlM (guarded ErpRequest.exec ErpRequest.AtCents .assertion) greengrocer)
    (by decide +kernel)

def applesReconciled : ApReconciliationRow :=
  value (apReconciliation applesPartlyPaid (some 0) none) (by decide +kernel)

def applesSummary : SupplierApSummary :=
  value (supplierApSummary applesPartlyPaid 0 2 none) (by decide +kernel)

/-- Three are owed, whichever report is read. -/
theorem payables_agree_apples :
    applesReconciled.apSubledgerTotal = 3 ∧ applesReconciled.discrepancy = 0 ∧
      applesSummary.totalOwed = 3 ∧
      (supplierStatement applesPartlyPaid atOnce 0 none none none).closingBalance = 3 := by
  obtain ⟨hreconciled, hsummary⟩ := payables_agree greengrocer_beforePayables
    (reaches_of_guarded (eq_ok_value _ _) : Reaches _ _ _ applesPartlyPaid) 2
  obtain ⟨hdiscrepancy, -⟩ := hreconciled (some 0) none applesReconciled (eq_ok_value _ _)
  obtain ⟨-, -, hstatement⟩ := hsummary 0 none atOnce applesSummary (eq_ok_value _ _)
  have howed : applesSummary.totalOwed = 3 := by decide +kernel
  exact ⟨by decide +kernel, hdiscrepancy, howed, hstatement ▸ howed⟩

/-- A payment of 1.005, which its column rounds to cents and the ledger does not. -/
def halfCentPaid : Db :=
  value ((partlyPaid (1005 / 1000)).foldlM (fun db r => ErpRequest.exec r db) greengrocer)
    (by decide +kernel)

def halfCentReconciled : ApReconciliationRow :=
  value (apReconciliation halfCentPaid (some 0) none) (by decide +kernel)

/-- **The ledger takes 1.005 off, and the invoice 1.01.** -/
theorem discrepancy_of_half_a_cent :
    Reaches ErpRequest.exec (fun _ _ => True) greengrocer halfCentPaid ∧
      apReconciliation halfCentPaid (some 0) none = .ok halfCentReconciled ∧
      halfCentReconciled.discrepancy = 5 / 1000 :=
  ⟨reaches_of_foldlM (eq_ok_value _ _), eq_ok_value _ _, by decide +kernel⟩

end GroceryErp
