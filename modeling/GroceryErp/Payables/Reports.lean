import GroceryErp.Accounting.Reports
import GroceryErp.Lib.Grouping
import GroceryErp.Lib.Statements
import GroceryErp.Payables.Settled
import Mathlib.Data.Prod.Lex

/-!
# The reports of accounts payable

The summary of a supplier, the aging and the reconciliation read what is owed off the invoices;
the statement of a supplier is made up from invoices, payments, credit notes and reversals, and
reads no balance at all.

## Main definitions

* `fifoClearingAmount`, `supplierApSummary` — `_fifo_clearing_amount`, `get_supplier_ap_summary`.
* `statementEvents`, `supplierStatement` — `get_supplier_statement`.
* `apAging`, `apReconciliation` — `ap_aging`, `ap_reconciliation`.
* `owedBy` — what is owed, by store and supplier.

## Main results

* `sum_apAging`, `apAging_supplier` — the aging says what is owed, in all and by supplier.
* `supplierApSummary_ok` — so does the summary.
* `supplierStatement_closing`, `supplierStatement_next` — a statement closes with what its events
  come to, and the next one opens with that.

## References

`backend/app/modules/ap/service.py`.
-/

namespace GroceryErp

open Decimal Grouping Ledger Outcome Rows Statements

/-! ### What is owed -/

/-- `_OUTSTANDING_INVOICE_STATUSES`: those in which something may be owed, which a paid or voided
invoice is not in. -/
def InvoiceStatus.IsOutstanding (x : InvoiceStatus) : Prop := x = .posted ∨ x = .partiallyPaid

instance (x : InvoiceStatus) : Decidable x.IsOutstanding := inferInstanceAs (Decidable (_ ∨ _))

/-- What is owed on an invoice, which is nothing in a status that is not outstanding, whatever the
columns say. -/
def PurchaseInvoice.owed (i : PurchaseInvoice) : ℚ :=
  if i.status.IsOutstanding then i.outstandingBalance else 0

/-- What is owed on the invoices of some stores and suppliers. -/
def owedBy (db : Db) (p : ℕ → ℕ → Prop) [∀ s u, Decidable (p s u)] : ℚ :=
  sumWhere (fun i => p i.val.storeId i.val.supplierId) (·.val.owed) db.payables.invoices

/-- The store of a row is the one asked for, if one is. -/
def InStore (storeId : Option ℕ) (s : ℕ) : Prop := ∀ x ∈ storeId, s = x

instance (storeId : Option ℕ) (s : ℕ) : Decidable (InStore storeId s) :=
  inferInstanceAs (Decidable (∀ _ ∈ _, _))

/-- What is owed is never negative. -/
theorem outstandingBalance_nonneg (i : Row PurchaseInvoice) : 0 ≤ i.val.outstandingBalance := by
  have h := i.property.settled_le
  unfold PurchaseInvoice.outstandingBalance
  linarith

/-! ### The summary of a supplier -/

/-- `_fifo_clearing_amount`: the value at receipt cost of the next units of an item to be invoiced.
-/
def fifoClearingAmount (db : Db) (purchaseOrderItemId : ℕ)
    (alreadyInvoicedQty additionalQty : ℚ) : Result ℚ := do
  let slices ← fifoMatchSlices db purchaseOrderItemId alreadyInvoicedQty additionalQty
  return ledgerQuantize (slices.map fun s => s.quantity * s.unitCost).sum

/-- What has been received on some orders and not invoiced, at the cost of its lots. -/
def outstandingClearing (db : Db) (p : PurchaseOrder → Prop) [DecidablePred p] : Result ℚ := do
  let items := (rowsWhere p db.purchasing.orders).flatMap fun order =>
    rowsWhere (·.val.purchaseOrderId = order.1) db.purchasing.orderItems
  let amounts ← items.mapM fun (itemId, item) =>
    let remaining := item.val.quantityReceived - item.val.quantityInvoiced
    if 0 < remaining then fifoClearingAmount db itemId item.val.quantityInvoiced remaining
    else return 0
  return amounts.sum

structure SupplierApSummary where
  supplierId : ℕ
  totalOwed : ℚ
  totalOverdue : ℚ
  totalCurrent : ℚ
  totalPaid : ℚ
  totalCredited : ℚ
  outstandingPurchaseClearing : ℚ

/-- `get_supplier_ap_summary`: what is owed to a supplier, what of it is overdue, and what was
received and not yet invoiced. -/
def supplierApSummary (db : Db) (supplierId : ℕ) (asOf : Date) (storeId : Option ℕ) :
    Result SupplierApSummary := do
  let invoices := db.payables.invoices.filter fun i =>
    i.val.supplierId = supplierId ∧ InStore storeId i.val.storeId
  let totalOwed := sumWhere (·.val.status.IsOutstanding) (·.val.outstandingBalance) invoices
  let totalOverdue := sumWhere (fun i => i.val.status.IsOutstanding ∧ i.val.dueDate < asOf)
    (·.val.outstandingBalance) invoices
  let outstandingPurchaseClearing ← outstandingClearing db fun order =>
    order.supplierId = supplierId ∧ InStore storeId order.storeId
  return {
    supplierId
    totalOwed
    totalOverdue
    totalCurrent := totalOwed - totalOverdue
    totalPaid := (invoices.map (·.val.amountPaid)).sum
    totalCredited := (invoices.map (·.val.amountCredited)).sum
    outstandingPurchaseClearing }

/-! ### Aging -/

/-- `"current"`, `"1_30"`, `"31_60"`, `"61_90"` and `"90+"`: by how many days an invoice is overdue.
-/
inductive AgingBucket
  | current
  | days1To30
  | days31To60
  | days61To90
  | daysOver90
  deriving DecidableEq

/-- The bucket of an invoice that has been due for some days. -/
def agingBucket (daysOverdue : ℤ) : AgingBucket :=
  if daysOverdue ≤ 0 then .current
  else if daysOverdue ≤ 30 then .days1To30
  else if daysOverdue ≤ 60 then .days31To60
  else if daysOverdue ≤ 90 then .days61To90
  else .daysOver90

/-- What the invoices of a bucket come to, by what is outstanding on each. -/
def bucketTotal (asOf : Date) (invoices : List (Row PurchaseInvoice)) (b : AgingBucket) : ℚ :=
  sumWhere (fun i => agingBucket (asOf - i.val.dueDate) = b) (·.val.outstandingBalance) invoices

structure ApAgingRow where
  supplierId : ℕ
  current : ℚ
  days1To30 : ℚ
  days31To60 : ℚ
  days61To90 : ℚ
  daysOver90 : ℚ
  total : ℚ

/-- The row of a supplier, from what is owed to it in each of the buckets. -/
def agingRow (supplierId : ℕ) (b : AgingBucket → ℚ) : ApAgingRow where
  supplierId := supplierId
  current := b .current
  days1To30 := b .days1To30
  days31To60 := b .days31To60
  days61To90 := b .days61To90
  daysOver90 := b .daysOver90
  total := b .current + b .days1To30 + b .days31To60 + b .days61To90 + b .daysOver90

/-- `ap_aging`: a list of stores goes before a store. -/
def apAging (db : Db) (storeId : Option ℕ) (storeIds : Option (List ℕ)) (asOf : Date) :
    List ApAgingRow :=
  let invoices := db.payables.invoices.filter fun i => i.val.status.IsOutstanding ∧
    ({ storeId, storeIds } : EntryFilter).HasStore i.val.storeId ∧ 0 < i.val.outstandingBalance
  (groupBy (·.val.supplierId) (bucketTotal asOf) invoices).map fun b => agingRow b.1 b.2

/-! ### Reconciliation -/

structure ApReconciliationRow where
  storeId : Option ℕ
  glAccountsPayableBalance : ℚ
  apSubledgerTotal : ℚ
  discrepancy : ℚ

/-- `ap_reconciliation`: the balance of Accounts Payable in the ledger against the open balances of
the invoices. -/
def apReconciliation (db : Db) (storeId : Option ℕ) (storeIds : Option (List ℕ)) :
    Result ApReconciliationRow := do
  let rows ← trialBalance db.books { storeId, storeIds }
  let glBalance := netCredit rows Account.accountsPayable.code
  let subledgerTotal := sumWhere (fun i => i.val.status.IsOutstanding ∧
    ({ storeId, storeIds } : EntryFilter).HasStore i.val.storeId) (·.val.outstandingBalance)
      db.payables.invoices
  return {
    storeId
    glAccountsPayableBalance := glBalance
    apSubledgerTotal := subledgerTotal
    discrepancy := glBalance - subledgerTotal }

/-! ### The statement of a supplier -/

inductive TransactionType
  | invoice
  | payment
  | creditNote
  | paymentReversal
  | creditNoteReversal
  deriving DecidableEq

/-- When the rows were made, by their keys: `created_at`, and `reversed_at` of reversals. -/
structure RowTimes where
  invoice : ℕ → ℕ
  payment : ℕ → ℕ
  creditNote : ℕ → ℕ
  paymentReversal : ℕ → ℕ
  creditNoteReversal : ℕ → ℕ

structure StatementEvent where
  date : Date
  transactionType : TransactionType
  reference : String
  amount : ℚ
  createdAt : ℕ
  deriving DecidableEq

section Statement

variable (db : Db) (times : RowTimes) (supplierId : ℕ) (storeId : Option ℕ)

/-- The invoices of the supplier that are neither drafts nor voided, each on its invoice date and at
its grand total. -/
def invoiceEvents : List StatementEvent :=
  (rowsWhere (fun i => i.val.status.Counted ∧ i.val.supplierId = supplierId ∧
    InStore storeId i.val.storeId) db.payables.invoices).map fun (i, invoice) =>
      ⟨invoice.val.invoiceDate, .invoice, invoice.val.invoiceNumber, invoice.val.grandTotal,
        times.invoice i⟩

def paymentEvents : List StatementEvent :=
  (rowsWhere (fun p => p.val.supplierId = supplierId ∧ InStore storeId p.val.storeId)
    db.payables.payments).map fun (i, payment) =>
      ⟨payment.val.paymentDate, .payment, s!"Payment {i}", -payment.val.amount, times.payment i⟩

def creditNoteEvents : List StatementEvent :=
  (rowsWhere (fun n => n.val.supplierId = supplierId ∧ InStore storeId n.val.storeId)
    db.payables.creditNotes).map fun (i, note) =>
      ⟨note.val.creditDate, .creditNote, note.val.creditNumber, -note.val.grandTotal,
        times.creditNote i⟩

/-- The reversals of payments, joined with their payments for the supplier and the store. -/
def paymentReversalEvents : List StatementEvent :=
  (withKeys db.payables.paymentReversals).filterMap fun (i, reversal) =>
    (db.payables.payments[reversal.supplierPaymentId]?.filter fun p =>
      p.val.supplierId = supplierId ∧ InStore storeId p.val.storeId).map fun payment =>
        ⟨reversal.reversedAt, .paymentReversal,
          s!"Reversal of payment {reversal.supplierPaymentId}", payment.val.amount,
          times.paymentReversal i⟩

def creditNoteReversalEvents : List StatementEvent :=
  (withKeys db.payables.creditNoteReversals).filterMap fun (i, reversal) =>
    (db.payables.creditNotes[reversal.supplierCreditNoteId]?.filter fun n =>
      n.val.supplierId = supplierId ∧ InStore storeId n.val.storeId).map fun note =>
        ⟨reversal.reversedAt, .creditNoteReversal,
          s!"Reversal of credit note {note.val.creditNumber}", note.val.grandTotal,
          times.creditNoteReversal i⟩

/-- `events.sort(key=lambda e: (e[0], e[4]))`: by day, and within a day by the time of the row. -/
def StatementEvent.key (e : StatementEvent) : ℤ ×ₗ ℕ := toLex (e.date, e.createdAt)

/-- All of them, by date and by when they were made. -/
def statementEvents : List StatementEvent :=
  (invoiceEvents db times supplierId storeId ++ paymentEvents db times supplierId storeId
    ++ creditNoteEvents db times supplierId storeId
    ++ paymentReversalEvents db times supplierId storeId
    ++ creditNoteReversalEvents db times supplierId storeId).insertionSort fun e f => e.key ≤ f.key

structure SupplierStatementLine where
  date : Date
  transactionType : TransactionType
  reference : String
  amount : ℚ
  runningBalance : ℚ
  deriving DecidableEq

structure SupplierStatement where
  supplierId : ℕ
  dateFrom : Option Date
  dateTo : Option Date
  openingBalance : ℚ
  lines : List SupplierStatementLine
  closingBalance : ℚ

/-- An event as a line of the statement, with the balance after it. -/
def statementLine (e : StatementEvent × ℚ) : SupplierStatementLine :=
  ⟨e.1.date, e.1.transactionType, e.1.reference, e.1.amount, e.2⟩

/-- `get_supplier_statement`: the events of a supplier in the order of their days, with a running
balance from what was owed before the first day. -/
def supplierStatement (dateFrom dateTo : Option Date) : SupplierStatement :=
  let events := statementEvents db times supplierId storeId
  let openingBalance := opening StatementEvent.date StatementEvent.amount dateFrom events
  let inRange := inRange StatementEvent.date dateFrom dateTo events
  { supplierId
    dateFrom
    dateTo
    openingBalance
    lines := (running StatementEvent.amount openingBalance inRange).map statementLine
    closingBalance := closing StatementEvent.amount openingBalance inRange }

end Statement

/-! ### What the aging says -/

section Aging

variable {db : Db} {storeId : Option ℕ} {storeIds : Option (List ℕ)} {asOf : Date}

/-- Every invoice is in one bucket. -/
theorem agingRow_total (supplierId : ℕ) (invoices : List (Row PurchaseInvoice)) :
    (agingRow supplierId (bucketTotal asOf invoices)).total
      = (invoices.map (·.val.outstandingBalance)).sum := by
  simp only [agingRow, bucketTotal]
  induction invoices with
  | nil => simp
  | cons i invoices ih =>
    rw [List.map_cons, List.sum_cons, ← ih]
    simp only [sumWhere_cons]
    cases agingBucket (asOf - i.val.dueDate) <;> simp <;> ring

/-- What is current is not due yet. -/
theorem bucketTotal_current (invoices : List (Row PurchaseInvoice)) :
    bucketTotal asOf invoices .current
      = sumWhere (fun i => ¬i.val.dueDate < asOf) (·.val.outstandingBalance) invoices := by
  refine sumWhere_congr (fun i _ => ?_) fun _ _ _ => rfl
  rw [not_lt, ← sub_nonpos]
  unfold agingBucket
  split_ifs with h <;> simp [h]

/-- The invoices that are aged, those of one supplier or all. -/
theorem sum_aged (p : PurchaseInvoice → Prop) [DecidablePred p] :
    sumWhere (fun i => p i.val) (·.val.outstandingBalance) (db.payables.invoices.filter fun i =>
        i.val.status.IsOutstanding ∧ ({ storeId, storeIds } : EntryFilter).HasStore i.val.storeId ∧
          0 < i.val.outstandingBalance)
      = sumWhere (fun i => p i.val ∧
          ({ storeId, storeIds } : EntryFilter).HasStore i.val.storeId) (·.val.owed)
          db.payables.invoices := by
  rw [sumWhere_filter, sumWhere_eq_sum_map, sumWhere_eq_sum_map]
  congr 1
  refine List.map_congr_left fun i _ => ?_
  unfold PurchaseInvoice.owed
  by_cases hbalance : 0 < i.val.outstandingBalance
  · simp only [hbalance, and_true]
    split_ifs <;> first | rfl | tauto
  · -- an invoice with nothing left to pay is not aged, and owes nothing
    have hzero : i.val.outstandingBalance = 0 :=
      le_antisymm (not_lt.mp hbalance) (outstandingBalance_nonneg i)
    simp [hzero]

/-- **The rows of the aging come to what is owed.** -/
theorem sum_apAging : ((apAging db storeId storeIds asOf).map (·.total)).sum
    = owedBy db fun s _ => ({ storeId, storeIds } : EntryFilter).HasStore s := by
  have haged := @sum_aged db storeId storeIds (fun _ => True) _
  simp only [true_and] at haged
  unfold apAging owedBy
  rw [List.map_map, ← haged]
  refine (sum_groupBy (g := fun b => (agingRow 0 b).total)
    (fun rows => agingRow_total 0 rows) _).trans ?_
  rw [sumWhere, List.filter_eq_self.mpr fun i _ => decide_eq_true trivial]

/-- **What the aging says of a supplier**, in all and of what is not due yet. -/
theorem apAging_supplier (u : ℕ) :
    sumWhere (·.supplierId = u) (·.total) (apAging db storeId storeIds asOf)
      = (owedBy db fun s v => v = u ∧ ({ storeId, storeIds } : EntryFilter).HasStore s) ∧
    sumWhere (·.supplierId = u) (·.current) (apAging db storeId storeIds asOf)
      = sumWhere (fun i => (¬i.val.dueDate < asOf ∧ i.val.supplierId = u) ∧
          ({ storeId, storeIds } : EntryFilter).HasStore i.val.storeId) (·.val.owed)
          db.payables.invoices := by
  unfold apAging owedBy
  rw [sumWhere_map, sumWhere_map]
  constructor
  · rw [← sum_aged fun i => i.supplierId = u]
    exact sumWhere_groupBy (g := fun b => (agingRow 0 b).total) (fun rows => agingRow_total 0 rows)
      u _
  · rw [← sum_aged fun i => ¬i.dueDate < asOf ∧ i.supplierId = u]
    refine (sumWhere_groupBy (g := fun b => (agingRow 0 b).current)
      (f := fun i => if ¬i.val.dueDate < asOf then i.val.outstandingBalance else 0)
      (fun rows => ?_) u _).trans ?_
    · rw [← sumWhere_eq_sum_map]
      exact bucketTotal_current rows
    · rw [sumWhere_eq_sum_map, sumWhere_eq_sum_map]
      congr 1
      refine List.map_congr_left fun i _ => ?_
      split_ifs <;> first | rfl | tauto

end Aging

/-! ### What the summary says -/

section Summary

variable {db : Db} {supplierId : ℕ} {asOf : Date} {storeId : Option ℕ}

/-- **What is owed to a supplier, and what of it is not due yet.** -/
theorem supplierApSummary_ok {summary : SupplierApSummary}
    (h : supplierApSummary db supplierId asOf storeId = .ok summary) :
    summary.totalOwed = (owedBy db fun s u => u = supplierId ∧ InStore storeId s) ∧
    summary.totalCurrent = sumWhere (fun i => (¬i.val.dueDate < asOf ∧
      i.val.supplierId = supplierId) ∧ InStore storeId i.val.storeId) (·.val.owed)
        db.payables.invoices := by
  unfold supplierApSummary at h
  simp only [bind_eq_ok, pure_eq_ok] at h
  obtain ⟨clearing, -, rfl⟩ := h
  dsimp only
  have howed : sumWhere (·.val.status.IsOutstanding) (·.val.outstandingBalance)
      (db.payables.invoices.filter fun i =>
        i.val.supplierId = supplierId ∧ InStore storeId i.val.storeId)
      = owedBy db fun s u => u = supplierId ∧ InStore storeId s := by
    unfold owedBy
    rw [sumWhere_filter, sumWhere_eq_sum_map, sumWhere_eq_sum_map]
    congr 1
    refine List.map_congr_left fun i _ => ?_
    unfold PurchaseInvoice.owed
    split_ifs <;> first | rfl | tauto
  refine ⟨howed, ?_⟩
  -- what is owed is due already or not
  rw [sub_eq_iff_eq_add, howed]
  unfold owedBy
  rw [sumWhere_filter, sumWhere_eq_sum_map, sumWhere_eq_sum_map, sumWhere_eq_sum_map,
    ← List.sum_map_add]
  congr 1
  refine List.map_congr_left fun i _ => ?_
  unfold PurchaseInvoice.owed
  by_cases hout : i.val.status.IsOutstanding
  · by_cases hdue : i.val.dueDate < asOf <;> simp [hout, hdue]
  · simp [hout]

end Summary

/-! ### What the statement says -/

/-- A payment or a credit note: its store, its supplier and its amount. -/
structure SettlementDocument where
  storeId : ℕ
  supplierId : ℕ
  amount : ℚ
  deriving DecidableEq

/-- The payments, or the credit notes, by what a report needs of either. -/
def SettlementWay.documentRows (way : SettlementWay) (db : Db) : List SettlementDocument :=
  match way with
  | payment => db.payables.payments.map fun p => ⟨p.val.storeId, p.val.supplierId, p.val.amount⟩
  | creditNote =>
    db.payables.creditNotes.map fun n => ⟨n.val.storeId, n.val.supplierId, n.val.grandTotal⟩

section Totals

variable (db : Db) (p : ℕ → ℕ → Prop) [∀ s u, Decidable (p s u)]

/-- What the documents of a way come to, for some stores and suppliers. -/
def SettlementWay.recorded (way : SettlementWay) : ℚ :=
  sumWhere (fun d => p d.storeId d.supplierId) SettlementDocument.amount (way.documentRows db)

/-- What the documents of a way that are reversed come to. -/
def SettlementWay.takenBack (way : SettlementWay) : ℚ :=
  sumWhere (fun d => p d.storeId d.supplierId) SettlementDocument.amount
    ((way.book db).reversed.filterMap fun d => (way.documentRows db)[d]?)

/-- What the invoices that count come to, over some stores and suppliers and at their grand totals.
-/
def invoicedBy : ℚ :=
  sumWhere (fun i => i.val.status.Counted ∧ p i.val.storeId i.val.supplierId) (·.val.grandTotal)
    db.payables.invoices

/-- What invoices, payments, credit notes and reversals come to. -/
def statementTotal : ℚ :=
  invoicedBy db p - SettlementWay.payment.recorded db p - SettlementWay.creditNote.recorded db p
    + SettlementWay.payment.takenBack db p + SettlementWay.creditNote.takenBack db p

end Totals

section Statement

variable {db : Db} {times : RowTimes} {supplierId : ℕ} {storeId : Option ℕ}

/-- The amounts of some rows, as the events of a statement have them. -/
theorem sum_events {α : Type} {rows : List α} {q : α → Prop} [DecidablePred q]
    {event : ℕ × α → StatementEvent} {f : α → ℚ} (hevent : ∀ r, (event r).amount = f r.2) :
    (((rowsWhere q rows).map event).map StatementEvent.amount).sum = sumWhere q f rows := by
  rw [List.map_map]
  have hamounts : (rowsWhere q rows).map (StatementEvent.amount ∘ event)
      = ((rowsWhere q rows).map Prod.snd).map f := by
    rw [List.map_map]
    exact List.map_congr_left fun r _ => hevent r
  rw [hamounts, map_snd_rowsWhere]
  rfl

/-- The amounts of the documents that some reversals name. -/
theorem sum_reversalEvents {α β : Type} (reversals : List β) (document : β → ℕ) (rows : List α)
    (view : α → SettlementDocument) (p : ℕ → ℕ → Prop) [∀ s u, Decidable (p s u)] (q : α → Prop)
    [DecidablePred q] (event : ℕ × β → α → StatementEvent)
    (hq : ∀ a, q a ↔ p (view a).storeId (view a).supplierId)
    (hevent : ∀ r a, (event r a).amount = (view a).amount) :
    (((withKeys reversals).filterMap fun r =>
        (rows[document r.2]?.filter fun a => q a).map (event r)).map StatementEvent.amount).sum
      = sumWhere (fun d => p d.storeId d.supplierId) SettlementDocument.amount
        ((reversals.map document).filterMap fun d => (rows.map view)[d]?) := by
  have hkeys : reversals = (withKeys reversals).map Prod.snd := by
    rw [withKeys, map_snd_rowsWhere, List.filter_eq_self.mpr fun r _ => decide_eq_true trivial]
  conv_rhs => rw [hkeys]
  generalize withKeys reversals = keyed
  induction keyed with
  | nil => rfl
  | cons r keyed ih =>
    rw [List.map_cons, List.map_cons, List.filterMap_cons, List.filterMap_cons, List.getElem?_map]
    cases hrow : rows[document r.2]? with
    | none => exact ih
    | some a =>
      by_cases ha : q a
      · have hkept : (some a).filter (fun a => decide (q a)) = some a := by simp [ha]
        simp only [hkept, Option.map_some, List.map_cons, List.sum_cons, sumWhere_cons, ih, hevent,
          if_pos ((hq a).mp ha)]
      · have hgone : (some a).filter (fun a => decide (q a)) = none := by simp [ha]
        simp only [hgone, Option.map_none, Option.map_some, sumWhere_cons, ih,
          if_neg (mt (hq a).mpr ha), zero_add]

/-- **The events of a statement come to what has been invoiced, less what has been settled.** -/
theorem sum_statementEvents :
    ((statementEvents db times supplierId storeId).map StatementEvent.amount).sum
      = statementTotal db fun s u => u = supplierId ∧ InStore storeId s := by
  unfold statementEvents
  rw [((List.perm_insertionSort _ _).map _).sum_eq]
  simp only [List.map_append, List.sum_append]
  have hinvoices : ((invoiceEvents db times supplierId storeId).map StatementEvent.amount).sum
      = invoicedBy db fun s u => u = supplierId ∧ InStore storeId s :=
    sum_events (f := fun i : Row PurchaseInvoice => i.val.grandTotal) fun _ => rfl
  have hpayments : ((paymentEvents db times supplierId storeId).map StatementEvent.amount).sum
      = -SettlementWay.payment.recorded db fun s u => u = supplierId ∧ InStore storeId s := by
    unfold SettlementWay.recorded SettlementWay.documentRows
    rw [sumWhere_map, ← sumWhere_neg]
    exact sum_events (f := fun p : Row SupplierPayment => -p.val.amount) fun _ => rfl
  have hnotes : ((creditNoteEvents db times supplierId storeId).map StatementEvent.amount).sum
      = -SettlementWay.creditNote.recorded db fun s u => u = supplierId ∧ InStore storeId s := by
    unfold SettlementWay.recorded SettlementWay.documentRows
    rw [sumWhere_map, ← sumWhere_neg]
    exact sum_events (f := fun n : Row SupplierCreditNote => -n.val.grandTotal) fun _ => rfl
  have hback : ((paymentReversalEvents db times supplierId storeId).map StatementEvent.amount).sum
      = SettlementWay.payment.takenBack db fun s u => u = supplierId ∧ InStore storeId s := by
    unfold paymentReversalEvents SettlementWay.takenBack SettlementWay.documentRows
    exact sum_reversalEvents _ _ _ (fun p : Row SupplierPayment =>
        ⟨p.val.storeId, p.val.supplierId, p.val.amount⟩)
      (fun s u => u = supplierId ∧ InStore storeId s) _ _ (fun _ => Iff.rfl) fun _ _ => rfl
  have hnotesBack : ((creditNoteReversalEvents db times supplierId storeId).map
      StatementEvent.amount).sum
      = SettlementWay.creditNote.takenBack db fun s u => u = supplierId ∧ InStore storeId s := by
    unfold creditNoteReversalEvents SettlementWay.takenBack SettlementWay.documentRows
    exact sum_reversalEvents _ _ _ (fun n : Row SupplierCreditNote =>
        ⟨n.val.storeId, n.val.supplierId, n.val.grandTotal⟩)
      (fun s u => u = supplierId ∧ InStore storeId s) _ _ (fun _ => Iff.rfl) fun _ _ => rfl
  rw [hinvoices, hpayments, hnotes, hback, hnotesBack]
  unfold statementTotal
  ring

theorem sorted_statementEvents :
    (statementEvents db times supplierId storeId).Pairwise fun e f => e.date ≤ f.date := by
  have htotal : Std.Total fun e f : StatementEvent => e.key ≤ f.key := ⟨fun e f => le_total _ _⟩
  have htrans : IsTrans StatementEvent fun e f => e.key ≤ f.key :=
    ⟨fun e f g h h' => h.trans h'⟩
  refine (List.pairwise_insertionSort (fun e f : StatementEvent => e.key ≤ f.key) _).imp ?_
  intro e f h
  rcases Prod.Lex.le_iff.mp h with hdate | ⟨hdate, -⟩
  · exact hdate.le
  · exact hdate.le

/-- **A statement over all days closes with what its events come to.** -/
theorem supplierStatement_closing :
    (supplierStatement db times supplierId storeId none none).closingBalance
      = statementTotal db fun s u => u = supplierId ∧ InStore storeId s := by
  unfold supplierStatement
  dsimp only
  rw [closing_eq, opening_none, inRange_none, zero_add, sum_statementEvents]

/-- **A statement, and the one from the next day on**: the second opens with what the first
closes with, and together they are the statement of both periods. -/
theorem supplierStatement_next {dateFrom dateTo : Option Date} {lastDay : Date}
    (hfrom : ∀ a ∈ dateFrom, a ≤ lastDay + 1) (hto : ∀ b ∈ dateTo, lastDay ≤ b) :
    let whole := supplierStatement db times supplierId storeId dateFrom dateTo
    let first := supplierStatement db times supplierId storeId dateFrom (some lastDay)
    let second := supplierStatement db times supplierId storeId (some (lastDay + 1)) dateTo
    whole.openingBalance = first.openingBalance ∧
      first.closingBalance = second.openingBalance ∧
      whole.lines = first.lines ++ second.lines ∧
      whole.closingBalance = second.closingBalance := by
  have hnext : ∀ d : ℤ, d < lastDay + 1 ↔ d ≤ lastDay := fun d => Int.lt_add_one_iff
  have hsorted := @sorted_statementEvents db times supplierId storeId
  have hsplit := inRange_split hsorted hnext hfrom hto
  have hopening := opening_next StatementEvent.amount hsorted hnext hfrom
  dsimp only [supplierStatement]
  refine ⟨rfl, hopening.symm, ?_, ?_⟩
  · rw [hsplit, running_append, List.map_append, hopening]
  · rw [hsplit, closing_append, hopening]

end Statement

/-- Rows that are all made at once, so that the order within a day is the one in which the queries
return them. -/
def atOnce : RowTimes := ⟨fun _ => 0, fun _ => 0, fun _ => 0, fun _ => 0, fun _ => 0⟩

/-- On the first day four are paid and two credited, and from the second on it is taken back. -/
theorem supplierStatement_next_apples :
    (supplierStatement applesUnsettled atOnce 0 none (some 0) (some 1)).closingBalance = -6 ∧
    (supplierStatement applesUnsettled atOnce 0 none (some 2) none).openingBalance = -6 ∧
    (supplierStatement applesUnsettled atOnce 0 none (some 2) none).closingBalance = 0 ∧
    (supplierStatement applesUnsettled atOnce 0 none (some 0) none).lines.length = 4 := by
  have hnext := @supplierStatement_next applesUnsettled atOnce 0 none (some 0) none 1
    (by decide) (by decide)
  obtain ⟨-, hopening, hlines, hclosing⟩ := hnext
  have hfirst : (supplierStatement applesUnsettled atOnce 0 none (some 0)
      (some 1)).closingBalance = -6 := by decide +kernel
  refine ⟨hfirst, hopening ▸ hfirst, hclosing ▸ ?_, ?_⟩
  · decide +kernel
  · rw [hlines]
    decide +kernel

end GroceryErp
