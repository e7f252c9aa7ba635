import GroceryErp.Payables.Invoices

/-!
# Payments and credit notes

A payment, or a supplier's credit note, is allocated in full to invoices that are
outstanding: it raises what is settled of each of them, and their statuses follow.
Reversing it lowers that again.

## Main definitions

* `checkAllocationInputs`, `checkAllocations` — what both ask of their allocations.
* `settle` — what an allocation does to its invoice.
* `recordSupplierPayment`, `reverseSupplierPayment`, `createSupplierCreditNote`,
  `reverseSupplierCreditNote` — the service functions.

## Main results

* `recordSupplierPayment_ok`, `reverseSupplierPayment_ok`, `createSupplierCreditNote_ok`,
  `reverseSupplierCreditNote_ok` — what a request that succeeds has checked and written.

## References

`backend/app/modules/ap/service.py`.
-/

namespace GroceryErp

open Decimal Ledger Outcome Rows

/-! ### Allocations -/

/-- `PaymentAllocationInput`: how much of a payment goes to one invoice. -/
structure PaymentAllocationInput where
  purchaseInvoiceId : ℕ
  amount : ℚ
  deriving DecidableEq

/-- `_outstanding_balance`: what neither payments nor credits have settled. -/
def PurchaseInvoice.outstandingBalance (i : PurchaseInvoice) : ℚ :=
  i.grandTotal - i.amountPaid - i.amountCredited

/-- `_recompute_invoice_status`: paid when it is settled in full, and back to posted when nothing of
it is. -/
def PurchaseInvoice.recomputeStatus (i : PurchaseInvoice) : PurchaseInvoice :=
  let settled := i.amountPaid + i.amountCredited
  { i with status :=
      if i.grandTotal ≤ settled then .paid else if 0 < settled then .partiallyPaid else .posted }

/-- The two ways an invoice is settled, each with a column of its own. -/
def PurchaseInvoice.pay (i : PurchaseInvoice) (amount : ℚ) : PurchaseInvoice :=
  { i with amountPaid := i.amountPaid + amount }

def PurchaseInvoice.credit (i : PurchaseInvoice) (amount : ℚ) : PurchaseInvoice :=
  { i with amountCredited := i.amountCredited + amount }

/-- What is settled of an invoice, as its columns keep it. -/
def PurchaseInvoice.storedSettled (i : PurchaseInvoice) : PurchaseInvoice :=
  { i with amountPaid := numeric 2 i.amountPaid, amountCredited := numeric 2 i.amountCredited }

/-- What the request itself must be: each invoice once, each amount positive. -/
def checkAllocationInputs (allocations : List PaymentAllocationInput) : Result Unit := do
  raiseIf (allocations = []) (.validation .emptyAllocations)
  raiseIf (¬(allocations.map (·.purchaseInvoiceId)).Nodup) (.validation .duplicateAllocationTarget)
  allocations.forM fun a => raiseIf (a.amount ≤ 0) (.validation .invalidAmount)

/-- What the invoices, which are all loaded first, must be; `code` is for an amount that is
more than is owed. -/
def checkAllocations (db : Db) (storeId supplierId : ℕ) (code : ErrorCode)
    (allocations : List PaymentAllocationInput) : Result Unit := do
  let invoices ← allocations.mapM fun a => do
    let invoice ← orRaise db.payables.invoices[a.purchaseInvoiceId]? .notFound
    return (a.amount, invoice.val)
  invoices.forM fun (amount, invoice) => do
    raiseIf (invoice.storeId ≠ storeId) (.conflict .storeMismatch)
    raiseIf (invoice.supplierId ≠ supplierId) (.conflict .supplierMismatch)
    raiseIf (invoice.status ≠ .posted ∧ invoice.status ≠ .partiallyPaid)
      (.conflict .invalidInvoiceState)
    raiseIf (invoice.outstandingBalance < amount) (.conflict code)

/-- An allocation, in one of the two ways: the amount is added to what is settled of the
invoice. -/
def settle (way : PurchaseInvoice → ℚ → PurchaseInvoice) (db : Db) (a : PaymentAllocationInput) :
    Result Db := do
  let invoice ← orRaise db.payables.invoices[a.purchaseInvoiceId]? .notFound
  let invoice ← flush (way invoice.val a.amount).recomputeStatus.storedSettled
  return { db with payables.invoices := db.payables.invoices.set a.purchaseInvoiceId invoice }

/-- The same amount the other way, as a reversal allocates it. -/
def PaymentAllocationInput.back (a : PaymentAllocationInput) : PaymentAllocationInput :=
  { a with amount := -a.amount }

/-! ### Payments -/

structure RecordSupplierPayment where
  storeId : ℕ
  supplierId : ℕ
  paymentDate : Date
  paymentMethod : SupplierPaymentMethod
  amount : ℚ
  allocations : List PaymentAllocationInput
  clientTransactionId : String
  callerStoreId : Option ℕ

/-- The allocations of a payment as a client would send them, to compare a repeated request with. -/
def paymentAllocationsOf (db : Db) (supplierPaymentId : ℕ) : List PaymentAllocationInput :=
  (db.payables.paymentAllocations.filter (·.val.supplierPaymentId = supplierPaymentId)).map
    fun a => ⟨a.val.purchaseInvoiceId, a.val.amount⟩

/-- `_match_or_reject_idempotent_payment`: the same key with the same content gives the stored
payment, and with any other a conflict. The order of the allocations does not matter. -/
def matchOrRejectIdempotentPayment (db : Db) (req : RecordSupplierPayment) :
    Result (Option ℕ) := do
  match ← scalarOneOrNone
      (rowsWhere (·.val.clientTransactionId = req.clientTransactionId) db.payables.payments) with
  | none => return none
  | some (supplierPaymentId, existing) => do
    raiseIf (existing.val.supplierId ≠ req.supplierId ∨ existing.val.amount ≠ req.amount ∨
        existing.val.paymentMethod ≠ req.paymentMethod ∨
        ¬(paymentAllocationsOf db supplierPaymentId).Perm req.allocations)
      (.conflict .idempotencyKeyConflict)
    return some supplierPaymentId

/-- A payment with the amount that was asked for. -/
def RecordSupplierPayment.payment (req : RecordSupplierPayment) : SupplierPayment where
  storeId := req.storeId
  supplierId := req.supplierId
  paymentDate := req.paymentDate
  paymentMethod := req.paymentMethod
  amount := req.amount
  clientTransactionId := req.clientTransactionId

/-- `record_supplier_payment`: the tables after the request, and the id of the payment.  The
key is looked up again under the locks on the invoices; a request that is alone finds the
same. -/
def recordSupplierPayment (db : Db) (req : RecordSupplierPayment) : Result (Db × ℕ) := do
  raiseIf (req.amount ≤ 0) (.validation .invalidAmount)
  checkAllocationInputs req.allocations
  raiseIf ((req.allocations.map (·.amount)).sum ≠ req.amount)
    (.validation .allocationMustEqualPaymentAmount)
  match ← matchOrRejectIdempotentPayment db req with
  | some supplierPaymentId => return (db, supplierPaymentId)
  | none => do
    enforceStoreAccess req.callerStoreId req.storeId
    checkAllocations db req.storeId req.supplierId .overpayment req.allocations
    let supplierPaymentId := db.payables.payments.length
    let payment ← flush { req.payment with amount := numeric 2 req.amount }
    let rows ← req.allocations.mapM fun a => flush
      { supplierPaymentId, purchaseInvoiceId := a.purchaseInvoiceId
        amount := numeric 2 a.amount : SupplierPaymentAllocation }
    let db ← req.allocations.foldlM (settle PurchaseInvoice.pay) db
    let db ← postSupplierPaymentJournal
      { db with
        payables.payments := db.payables.payments ++ [payment]
        payables.paymentAllocations := db.payables.paymentAllocations ++ rows }
      supplierPaymentId req.payment
    return (db, supplierPaymentId)

structure ReverseSupplierPayment where
  supplierPaymentId : ℕ
  reason : String
  callerStoreId : Option ℕ
  reversedBy : Option ℕ
  today : Date

/-- `reverse_supplier_payment`: every allocation is taken back from its invoice and the entry is
posted the other way round; a second reversal changes nothing. -/
def reverseSupplierPayment (db : Db) (req : ReverseSupplierPayment) : Result Db := do
  raiseIf (isBlank req.reason) (.validation .reversalReasonRequired)
  let payment ← orRaise db.payables.payments[req.supplierPaymentId]? .notFound
  enforceStoreAccess req.callerStoreId payment.val.storeId
  if ∃ r ∈ db.payables.paymentReversals, r.supplierPaymentId = req.supplierPaymentId then return db
  else do
    raiseIf (req.reversedBy = none) (.validation .actorRequired)
    let db ← ((paymentAllocationsOf db req.supplierPaymentId).map (·.back)).foldlM
      (settle PurchaseInvoice.pay) db
    let db ← postSupplierPaymentReversalJournal db req.supplierPaymentId payment.val req.today
    return { db with
      payables.paymentReversals := db.payables.paymentReversals
        ++ [⟨req.supplierPaymentId, req.today⟩] }

/-! ### Credit notes -/

structure SupplierCreditNoteLineInput where
  description : String
  amount : ℚ
  productId : Option ℕ := none
  quantity : Option ℚ := none
  unitCost : Option ℚ := none

structure CreateSupplierCreditNote where
  storeId : ℕ
  supplierId : ℕ
  creditNumber : String
  creditDate : Date
  reason : CreditNoteReason
  lines : List SupplierCreditNoteLineInput
  allocations : List PaymentAllocationInput
  clientTransactionId : String
  callerStoreId : Option ℕ
  purchaseReturnId : Option ℕ := none

/-- The total of a credit note, which is that of its lines. -/
def CreateSupplierCreditNote.grandTotal (req : CreateSupplierCreditNote) : ℚ :=
  (req.lines.map (·.amount)).sum

/-- What the request itself must be: a credit for goods names their return, another names
none. -/
def checkCreditNoteInputs (req : CreateSupplierCreditNote) : Result Unit := do
  raiseIf (req.reason = .goodsReturn ∧ req.purchaseReturnId = none)
    (.validation .missingPurchaseReturnReference)
  raiseIf (req.reason = .commercialDiscount ∧ req.purchaseReturnId ≠ none)
    (.validation .unexpectedPurchaseReturnReference)
  raiseIf (isBlank req.creditNumber) (.validation .invalidCreditNumber)
  raiseIf (req.lines = []) (.validation .emptyCreditNote)
  req.lines.forM fun line => raiseIf (line.amount ≤ 0) (.validation .invalidAmount)
  checkAllocationInputs req.allocations

/-- The allocations of a credit note, in the form in which they were asked for. -/
def creditAllocationsOf (db : Db) (supplierCreditNoteId : ℕ) : List PaymentAllocationInput :=
  (db.payables.creditAllocations.filter
    (·.val.supplierCreditNoteId = supplierCreditNoteId)).map
      fun a => ⟨a.val.purchaseInvoiceId, a.val.amount⟩

/-- `_match_or_reject_idempotent_credit_note`: as for payments, with the lines of the note compared
as well. -/
def matchOrRejectIdempotentCreditNote (db : Db) (req : CreateSupplierCreditNote) :
    Result (Option ℕ) := do
  match ← scalarOneOrNone
      (rowsWhere (·.val.clientTransactionId = req.clientTransactionId)
        db.payables.creditNotes) with
  | none => return none
  | some (supplierCreditNoteId, existing) => do
    let existingLines := db.payables.creditNoteLines.filter
      (·.val.supplierCreditNoteId = supplierCreditNoteId)
    raiseIf (existing.val.supplierId ≠ req.supplierId ∨
        existing.val.creditNumber ≠ req.creditNumber ∨ existing.val.reason ≠ req.reason ∨
        ¬(existingLines.map fun l => (l.val.description, l.val.amount)).Perm
          (req.lines.map fun l => (l.description, l.amount)) ∨
        ¬(creditAllocationsOf db supplierCreditNoteId).Perm req.allocations)
      (.conflict .idempotencyKeyConflict)
    return some supplierCreditNoteId

/-- What a purchase return is worth: its quantities at their unit costs, and nothing is rounded. -/
def returnValue (db : Db) (purchaseReturnId : ℕ) : ℚ :=
  sumWhere (·.val.purchaseReturnId = purchaseReturnId) (fun i => i.val.quantity * i.val.unitCost)
    db.purchasing.returnItems

/-- The credit note is not for more than the return it names. -/
def checkReturn (db : Db) (req : CreateSupplierCreditNote) (purchaseReturnId : ℕ) :
    Result Unit := do
  let purchaseReturn ← orRaise db.purchasing.returns[purchaseReturnId]? .notFound
  raiseIf (purchaseReturn.storeId ≠ req.storeId) (.conflict .storeMismatch)
  let order ← orRaise db.purchasing.orders[purchaseReturn.purchaseOrderId]?
    (.conflict .supplierMismatch)
  raiseIf (order.supplierId ≠ req.supplierId) (.conflict .supplierMismatch)
  raiseIf (returnValue db purchaseReturnId < req.grandTotal) (.conflict .creditExceedsReturnValue)

/-- A credit note with the total of its lines. -/
def CreateSupplierCreditNote.creditNote (req : CreateSupplierCreditNote) : SupplierCreditNote where
  storeId := req.storeId
  supplierId := req.supplierId
  creditNumber := req.creditNumber
  creditDate := req.creditDate
  reason := req.reason
  purchaseReturnId := req.purchaseReturnId
  grandTotal := req.grandTotal
  amountAllocated := req.grandTotal
  clientTransactionId := req.clientTransactionId

/-- A credit note as its columns keep it. -/
def SupplierCreditNote.stored (n : SupplierCreditNote) : SupplierCreditNote :=
  { n with grandTotal := numeric 2 n.grandTotal, amountAllocated := numeric 2 n.amountAllocated }

/-- A line as its columns keep it. -/
def SupplierCreditNoteLineInput.row (line : SupplierCreditNoteLineInput)
    (supplierCreditNoteId : ℕ) : SupplierCreditNoteLine where
  supplierCreditNoteId := supplierCreditNoteId
  description := line.description
  productId := line.productId
  quantity := line.quantity.map (numeric 3)
  unitCost := line.unitCost.map (numeric 6)
  amount := numeric 2 line.amount

/-- The checks of `create_supplier_credit_note` on the tables, in the order in which the source
makes them. -/
def planCreditNote (db : Db) (req : CreateSupplierCreditNote) : Result Unit := do
  enforceStoreAccess req.callerStoreId req.storeId
  let store ← orRaise db.master.stores[req.storeId]? .notFound
  raiseIf (¬store.isActive) .notFound
  let supplier ← orRaise db.master.suppliers[req.supplierId]? (.validation .invalidSupplier)
  raiseIf (¬supplier.isActive) (.validation .invalidSupplier)
  raiseIf ((req.allocations.map (·.amount)).sum ≠ req.grandTotal)
    (.validation .allocationMustEqualCreditAmount)
  req.purchaseReturnId.toList.forM (checkReturn db req)
  checkAllocations db req.storeId req.supplierId .overAllocation req.allocations
  raiseIf (∃ n ∈ db.payables.creditNotes,
      n.val.supplierId = req.supplierId ∧ n.val.creditNumber = req.creditNumber)
    (.conflict .duplicateSupplierCreditNumber)

/-- `create_supplier_credit_note`: the tables after the request, and the id of the credit
note. -/
def createSupplierCreditNote (db : Db) (req : CreateSupplierCreditNote) : Result (Db × ℕ) := do
  checkCreditNoteInputs req
  match ← matchOrRejectIdempotentCreditNote db req with
  | some supplierCreditNoteId => return (db, supplierCreditNoteId)
  | none => do
    planCreditNote db req
    let supplierCreditNoteId := db.payables.creditNotes.length
    let creditNote ← flush req.creditNote.stored
    let lines ← req.lines.mapM fun line => flush (line.row supplierCreditNoteId)
    let rows ← req.allocations.mapM fun a => flush
      { supplierCreditNoteId, purchaseInvoiceId := a.purchaseInvoiceId
        amount := numeric 2 a.amount : SupplierCreditAllocation }
    let db ← req.allocations.foldlM (settle PurchaseInvoice.credit) db
    let db ← postSupplierCreditNoteJournal
      { db with
        payables.creditNotes := db.payables.creditNotes ++ [creditNote]
        payables.creditNoteLines := db.payables.creditNoteLines ++ lines
        payables.creditAllocations := db.payables.creditAllocations ++ rows }
      supplierCreditNoteId req.creditNote
    return (db, supplierCreditNoteId)

structure ReverseSupplierCreditNote where
  supplierCreditNoteId : ℕ
  reason : String
  callerStoreId : Option ℕ
  reversedBy : Option ℕ
  today : Date

/-- The credit note has been reversed, which is a row of its own and no status. -/
def CreditNoteReversed (db : Db) (supplierCreditNoteId : ℕ) : Prop :=
  ∃ r ∈ db.payables.creditNoteReversals, r.supplierCreditNoteId = supplierCreditNoteId

instance (db : Db) (i : ℕ) : Decidable (CreditNoteReversed db i) :=
  inferInstanceAs (Decidable (∃ r ∈ db.payables.creditNoteReversals, _))

/-- `reverse_supplier_credit_note`: the allocations are taken back from the invoices and from the
note; a second reversal changes nothing. -/
def reverseSupplierCreditNote (db : Db) (req : ReverseSupplierCreditNote) : Result Db := do
  raiseIf (isBlank req.reason) (.validation .reversalReasonRequired)
  let creditNote ← orRaise db.payables.creditNotes[req.supplierCreditNoteId]? .notFound
  enforceStoreAccess req.callerStoreId creditNote.val.storeId
  if CreditNoteReversed db req.supplierCreditNoteId then return db
  else do
    raiseIf (req.reversedBy = none) (.validation .actorRequired)
    let allocations := creditAllocationsOf db req.supplierCreditNoteId
    let db ← (allocations.map (·.back)).foldlM (settle PurchaseInvoice.credit) db
    let taken := { creditNote.val with
      amountAllocated := creditNote.val.amountAllocated - (allocations.map (·.amount)).sum }
    let row ← flush taken.stored
    let db ← postSupplierCreditNoteReversalJournal
      { db with
        payables.creditNotes := db.payables.creditNotes.set req.supplierCreditNoteId row }
      req.supplierCreditNoteId taken req.today
    return { db with
      payables.creditNoteReversals := db.payables.creditNoteReversals
        ++ [⟨req.supplierCreditNoteId, req.today⟩] }

/-! ### What a request that succeeds has done -/

section Inversion

variable {db db' : Db}

theorem settle_eq_ok {way : PurchaseInvoice → ℚ → PurchaseInvoice} {a : PaymentAllocationInput} :
    settle way db a = .ok db' ↔ ∃ old invoice,
      db.payables.invoices[a.purchaseInvoiceId]? = some old ∧
      invoice.val = (way old.val a.amount).recomputeStatus.storedSettled ∧
      db' = { db with
        payables.invoices := db.payables.invoices.set a.purchaseInvoiceId invoice } := by
  unfold settle
  simp only [bind_eq_ok, orRaise_eq_ok, flush_eq_ok, pure_eq_ok, @eq_comm _ _ db', exists_and_left]

/-- Allocations write invoices and nothing else. -/
theorem settleAll_frame {way : PurchaseInvoice → ℚ → PurchaseInvoice}
    {allocations : List PaymentAllocationInput} (h : allocations.foldlM (settle way) db = .ok db') :
    db' = { db with payables.invoices := db'.payables.invoices } := by
  refine foldlM_induct (fun _ t => t = { db with payables.invoices := t.payables.invoices }) h
    rfl ?_
  rintro done a rest t t' - ht hstep
  obtain ⟨old, invoice, -, -, rfl⟩ := settle_eq_ok.mp hstep
  rw [ht]

theorem checkAllocationInputs_ok {allocations : List PaymentAllocationInput}
    (h : checkAllocationInputs allocations = .ok ()) : ∀ a ∈ allocations, 0 < a.amount := by
  unfold checkAllocationInputs at h
  simp only [↓check_bind_eq_ok, forM_raiseIf_eq_ok, not_le] at h
  exact h.2.2

/-- Nothing is settled of an invoice that is not outstanding. -/
theorem checkAllocations_ok {storeId supplierId : ℕ} {code : ErrorCode}
    {allocations : List PaymentAllocationInput}
    (h : checkAllocations db storeId supplierId code allocations = .ok ()) :
    ∀ a ∈ allocations, ∃ invoice, db.payables.invoices[a.purchaseInvoiceId]? = some invoice ∧
      (invoice.val.status = .posted ∨ invoice.val.status = .partiallyPaid) := by
  unfold checkAllocations at h
  rw [bind_eq_ok] at h
  obtain ⟨invoices, hinvoices, hchecks⟩ := h
  rw [forM_eq_ok] at hchecks
  intro a ha
  obtain ⟨loaded, hloaded, hload⟩ := exists_of_mapM hinvoices ha
  simp only [bind_eq_ok, orRaise_eq_ok, pure_eq_ok] at hload
  obtain ⟨invoice, hrow, rfl⟩ := hload
  have hcheck := hchecks _ hloaded
  simp only [↓check_bind_eq_ok, raiseIf_eq_ok] at hcheck
  obtain ⟨-, -, hstatus, -⟩ := hcheck
  rw [not_and_or, not_not, not_not] at hstatus
  exact ⟨invoice, hrow, hstatus⟩

theorem checkCreditNoteInputs_ok {req : CreateSupplierCreditNote}
    (h : checkCreditNoteInputs req = .ok ()) : checkAllocationInputs req.allocations = .ok () := by
  unfold checkCreditNoteInputs at h
  simp only [↓check_bind_eq_ok] at h
  exact h.2.2.2.2.2

theorem planCreditNote_ok {req : CreateSupplierCreditNote} (h : planCreditNote db req = .ok ()) :
    (req.allocations.map (·.amount)).sum = req.grandTotal ∧
      checkAllocations db req.storeId req.supplierId .overAllocation req.allocations = .ok () := by
  unfold planCreditNote at h
  simp only [↓check_bind_eq_ok, bind_eq_ok, raiseIf_eq_ok, not_not] at h
  obtain ⟨-, store, -, -, supplier, -, -, hsum, -, hcheck, -⟩ := h
  exact ⟨hsum, hcheck⟩

/-- A payment that is not a replay is checked, written with its allocations, and posted. -/
theorem recordSupplierPayment_ok {req : RecordSupplierPayment} {paymentId : ℕ}
    (h : recordSupplierPayment db req = .ok (db', paymentId)) :
    db' = db ∨ (checkAllocationInputs req.allocations = .ok () ∧
      (req.allocations.map (·.amount)).sum = req.amount ∧
      checkAllocations db req.storeId req.supplierId .overpayment req.allocations = .ok () ∧
      ∃ payment rows d,
        payment.val = { req.payment with amount := numeric 2 req.amount } ∧
        rows.map Subtype.val = req.allocations.map (fun a =>
          ⟨db.payables.payments.length, a.purchaseInvoiceId, numeric 2 a.amount⟩) ∧
        req.allocations.foldlM (settle PurchaseInvoice.pay) db = .ok d ∧
        postSupplierPaymentJournal
          { d with
            payables.payments := d.payables.payments ++ [payment]
            payables.paymentAllocations := d.payables.paymentAllocations ++ rows }
          db.payables.payments.length req.payment = .ok db') := by
  unfold recordSupplierPayment at h
  simp only [↓check_bind_eq_ok, bind_eq_ok, raiseIf_eq_ok, not_not] at h
  obtain ⟨-, hinputs, hsum, found, -, h⟩ := h
  cases found with
  | some i =>
    rw [pure_eq_ok, Prod.mk.injEq] at h
    exact .inl h.1.symm
  | none =>
    simp only [↓check_bind_eq_ok, bind_eq_ok, flush_eq_ok, pure_eq_ok, Prod.mk.injEq] at h
    obtain ⟨-, hcheck, payment, hpayment, rows, hrows, d, hd, e, hpost, rfl, -⟩ := h
    refine .inr ⟨hinputs, hsum, hcheck, payment, rows, d, hpayment, ?_, hd, hpost⟩
    exact map_of_mapM hrows fun a row hrow => flush_eq_ok.mp hrow

/-- A reversal that is not a repeat takes the allocations back, and posts the entry the
other way round. -/
theorem reverseSupplierPayment_ok {req : ReverseSupplierPayment}
    (h : reverseSupplierPayment db req = .ok db') :
    db' = db ∨ ∃ payment d e,
      db.payables.payments[req.supplierPaymentId]? = some payment ∧
      (¬∃ r ∈ db.payables.paymentReversals, r.supplierPaymentId = req.supplierPaymentId) ∧
      ((paymentAllocationsOf db req.supplierPaymentId).map (·.back)).foldlM
        (settle PurchaseInvoice.pay) db = .ok d ∧
      postSupplierPaymentReversalJournal d req.supplierPaymentId payment.val req.today = .ok e ∧
      db' = { e with
        payables.paymentReversals := e.payables.paymentReversals
          ++ [⟨req.supplierPaymentId, req.today⟩] } := by
  unfold reverseSupplierPayment at h
  simp only [↓check_bind_eq_ok, bind_eq_ok, orRaise_eq_ok] at h
  obtain ⟨-, payment, hpayment, -, h⟩ := h
  split at h
  · rw [pure_eq_ok] at h
    exact .inl h.symm
  · next hnew =>
    simp only [↓check_bind_eq_ok, bind_eq_ok, pure_eq_ok] at h
    obtain ⟨-, d, hd, e, hpost, rfl⟩ := h
    exact .inr ⟨payment, d, e, hpayment, hnew, hd, hpost, rfl⟩

/-- A credit note that is not a replay is checked, written with its lines and allocations,
and posted. -/
theorem createSupplierCreditNote_ok {req : CreateSupplierCreditNote} {creditNoteId : ℕ}
    (h : createSupplierCreditNote db req = .ok (db', creditNoteId)) :
    (db' = db ∧ ∃ found, matchOrRejectIdempotentCreditNote db req = .ok (some found)) ∨
    (checkCreditNoteInputs req = .ok () ∧ matchOrRejectIdempotentCreditNote db req = .ok none ∧
      planCreditNote db req = .ok () ∧ ∃ creditNote lines rows d,
        creditNote.val = req.creditNote.stored ∧
        lines.map Subtype.val = req.lines.map (·.row db.payables.creditNotes.length) ∧
        rows.map Subtype.val = req.allocations.map (fun a =>
          ⟨db.payables.creditNotes.length, a.purchaseInvoiceId, numeric 2 a.amount⟩) ∧
        req.allocations.foldlM (settle PurchaseInvoice.credit) db = .ok d ∧
        postSupplierCreditNoteJournal
          { d with
            payables.creditNotes := d.payables.creditNotes ++ [creditNote]
            payables.creditNoteLines := d.payables.creditNoteLines ++ lines
            payables.creditAllocations := d.payables.creditAllocations ++ rows }
          db.payables.creditNotes.length req.creditNote = .ok db') := by
  unfold createSupplierCreditNote at h
  rw [check_bind_eq_ok, bind_eq_ok] at h
  obtain ⟨hinputs, found, hfound, h⟩ := h
  cases found with
  | some i =>
    rw [pure_eq_ok, Prod.mk.injEq] at h
    exact .inl ⟨h.1.symm, i, hfound⟩
  | none =>
    simp only [↓check_bind_eq_ok, bind_eq_ok, flush_eq_ok, pure_eq_ok, Prod.mk.injEq] at h
    obtain ⟨hplan, note, hnote, lines, hlines, rows, hrows, d, hd, d', hpost, rfl, -⟩ := h
    refine .inr ⟨hinputs, hfound, hplan, note, lines, rows, d, hnote, ?_, ?_, hd, hpost⟩
    · exact map_of_mapM hlines fun l row hrow => flush_eq_ok.mp hrow
    · exact map_of_mapM hrows fun a row hrow => flush_eq_ok.mp hrow

/-- A reversal that is not a repeat takes the allocations back, and posts the entry the
other way round. -/
theorem reverseSupplierCreditNote_ok {req : ReverseSupplierCreditNote}
    (h : reverseSupplierCreditNote db req = .ok db') :
    db' = db ∨ ∃ creditNote row d e,
      db.payables.creditNotes[req.supplierCreditNoteId]? = some creditNote ∧
      ¬CreditNoteReversed db req.supplierCreditNoteId ∧
      ((creditAllocationsOf db req.supplierCreditNoteId).map (·.back)).foldlM
        (settle PurchaseInvoice.credit) db = .ok d ∧
      row.val = SupplierCreditNote.stored { creditNote.val with
        amountAllocated := creditNote.val.amountAllocated
          - ((creditAllocationsOf db req.supplierCreditNoteId).map (·.amount)).sum } ∧
      postSupplierCreditNoteReversalJournal
        { d with
          payables.creditNotes := d.payables.creditNotes.set req.supplierCreditNoteId row }
        req.supplierCreditNoteId { creditNote.val with
          amountAllocated := creditNote.val.amountAllocated
            - ((creditAllocationsOf db req.supplierCreditNoteId).map (·.amount)).sum }
        req.today = .ok e ∧
      db' = { e with
        payables.creditNoteReversals := e.payables.creditNoteReversals
          ++ [⟨req.supplierCreditNoteId, req.today⟩] } := by
  unfold reverseSupplierCreditNote at h
  simp only [↓check_bind_eq_ok, bind_eq_ok, orRaise_eq_ok] at h
  obtain ⟨-, creditNote, hnote, -, h⟩ := h
  split at h
  · rw [pure_eq_ok] at h
    exact .inl h.symm
  -- the allocations are taken back one by one, then the note is written, then the entry posted
  · next hreversed =>
    simp only [↓check_bind_eq_ok, bind_eq_ok, flush_eq_ok, pure_eq_ok] at h
    obtain ⟨-, d, hd, row, hrow, e, hpost, rfl⟩ := h
    exact .inr ⟨creditNote, row, d, e, hnote, hreversed, hd, hrow, hpost, rfl⟩

end Inversion

end GroceryErp
