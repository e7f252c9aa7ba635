import GroceryErp.Accounting.Periods
import GroceryErp.System.Asides

/-!
# Compensations over all requests

Purchase invoices are voided, payments, credit notes, write-offs and payrolls are reversed,
and everything else that the company does goes on in between.  The second entry of a document
cancels its first, as long as payments and credit notes are in whole cents: those are posted
as they are asked for, and reversed as their rows keep them.

## Main definitions

* `ErpRequest`, `ErpRequest.exec` — the requests of all modules, and one of them committed.
* `ErpRequest.InWholeCents` — what a payment or a credit note comes to fits its column.
* `Compensable`, `Undone` — the documents that can be undone, and those that are.
* `CompensationsInOrder` — the compensations mirror the originals.

## Main results

* `exec_compensationsInOrder` — every request in whole cents keeps that.
* `compensations_cancel` — over any run of such requests a document that is undone comes to
  nothing, and is compensated at most once.
* `reversal_off_by_half_a_cent` — a payment that is not in whole cents leaves something.
* `automated_entry_not_reversed` — no document is undone as a manual entry is.

## References

`backend/app/modules/accounting/service.py`, `ap/service.py`, `writeoffs/service.py`,
`payroll/service.py`.
-/

namespace GroceryErp

open Decimal Ledger Outcome Rows Runs

/-! ### Requests -/

inductive ErpRequest
  | stock (r : StockRequest)
  | transfer (r : TransferRequest)
  | createPurchaseInvoice (req : CreatePurchaseInvoice)
  | postPurchaseInvoice (req : PostPurchaseInvoice)
  | settlement (r : SettlementRequest)
  | workforce (r : WorkforceRequest)
  | closeAccountingPeriod (req : CloseAccountingPeriod)

namespace ErpRequest

/-- One request of any of the modules, committed with the scale of the columns. -/
def exec : ErpRequest → Db → Result Db
  | stock r, db => r.exec db
  | transfer r, db => r.exec db
  | createPurchaseInvoice req, db =>
    (fun done => Db.commit done.1) <$> GroceryErp.createPurchaseInvoice db req
  | postPurchaseInvoice req, db => Db.commit <$> GroceryErp.postPurchaseInvoice db req
  | settlement r, db => r.exec db
  | workforce r, db => r.exec db
  | closeAccountingPeriod req, db =>
    (fun books => { db with ledger.periods := books.periods }) <$>
      GroceryErp.closeAccountingPeriod db.books req

/-- A payment or a credit note comes to whole cents, as far as the ledger can tell. -/
def InWholeCents (_ : Db) : ErpRequest → Prop
  | settlement (.recordSupplierPayment req) => GroceryErp.InWholeCents req.amount
  | settlement (.createSupplierCreditNote req) => GroceryErp.InWholeCents req.grandTotal
  | _ => True

instance decidableInWholeCents (db : Db) (r : ErpRequest) : Decidable (InWholeCents db r) := by
  unfold InWholeCents
  split <;> infer_instance

end ErpRequest

/-! ### Documents that can be undone -/

inductive Compensable
  | purchaseInvoice
  | settlement (way : SettlementWay)
  | transferWriteOff
  | payrollPeriod

namespace Compensable

/-- The source type of the entry that such a document is posted with. -/
def posting : Compensable → SourceType
  | purchaseInvoice => .purchaseInvoice
  | settlement way => way.posting
  | transferWriteOff => .transferWriteOff
  | payrollPeriod => .payrollPosting

/-- The entry that undoes it: a void for an invoice, and a reversal for all others. -/
def compensation : Compensable → SourceType
  | purchaseInvoice => .purchaseInvoiceVoid
  | settlement way => way.reversal
  | transferWriteOff => .transferWriteOffReversal
  | payrollPeriod => .payrollReversal

/-- The document has been voided or reversed. -/
def Undone (db : Db) : Compensable → ℕ → Prop
  | purchaseInvoice, i =>
    ∃ invoice, db.payables.invoices[i]? = some invoice ∧ invoice.val.status = .voided
  | settlement way, i => i ∈ (way.book db).reversed
  | transferWriteOff, i => WriteOffUndone db i
  | payrollPeriod, i => Reversed db i

end Compensable

/-! ### The invariant -/

/-- The compensations mirror the originals, and lots are as their columns keep them. -/
structure CompensationsMirrored (db : Db) : Prop where
  payables : PayablesMirrored db
  writeOffs : WriteOffsMirrored db
  payrolls : PayrollMirrored db
  periods : PayrollInOrder db
  lots : ∀ r ∈ db.purchasing.receiptItems, r.val.InScale

/-- All compensations mirror their postings, and the quantities that have been invoiced are whole
thousandths. -/
structure CompensationsInOrder (db : Db) : Prop extends CompensationsMirrored db where
  items : ∀ i ∈ db.purchasing.orderItems, OnGrid 3 i.val.quantityInvoiced

/-- Tables in which nothing has been posted that can be undone. -/
structure BeforeCompensations (db : Db) : Prop where
  payables : db.payables = {}
  writeOffs : db.losses.writeOffs = []
  payroll : BeforePayroll db
  entries : ∀ e ∈ db.ledger.entries, StockKind e.val.sourceType
  lots : ∀ r ∈ db.purchasing.receiptItems, r.val.InScale
  items : ∀ i ∈ db.purchasing.orderItems, OnGrid 3 i.val.quantityInvoiced

section Steps

variable {db d db' : Db}

theorem BeforeCompensations.unposted (h : BeforeCompensations db) {t : SourceType}
    (ht : ¬StockKind t) (i : ℕ) : Unposted db t i := by
  rintro ⟨e, he, hkind, -⟩
  exact ht (hkind ▸ h.entries e he)

/-- Where there are no rows, none is to have posted anything. -/
theorem takenOf_nil {α : Type} {rows : List α} {store : α → Option ℕ}
    {lines : ℕ → α → List JournalLine} (h : rows = []) (i s : ℕ) (a : Account) :
    takenOf rows store lines i s a = 0 := by
  subst h
  rfl

theorem BeforeCompensations.payablesMirrored (h : BeforeCompensations db) :
    PayablesMirrored db where
  traced := by
    have hpayables := h.payables
    refine ⟨by simp [hpayables], by simp [hpayables], fun way => ?_, fun way => ?_,
      by simp [hpayables]⟩
    · cases way <;> simp [SettlementWay.book, hpayables]
    · cases way <;> simp [SettlementWay.book, hpayables]
  totals := by simp [h.payables]
  invoices := by
    refine .of_unposted (h.unposted (by decide)) (h.unposted (by decide))
      (takenOf_nil (by rw [h.payables])) fun i => ?_
    simp [InvoiceUndone, h.payables]
  ways way := by
    have hkind : ∀ t, way.Kind t → ¬StockKind t := fun t ht => (payablesKind_of_way t ht).apart.2.2
    refine .of_unposted (h.unposted (hkind _ (.inl rfl))) (h.unposted (hkind _ (.inr rfl))) ?_
      fun i => ?_
    · cases way
      · exact takenOf_nil (by rw [h.payables])
      · exact takenOf_nil (by rw [h.payables])
    · cases way <;> simp [SettlementWay.book, h.payables]

theorem BeforeCompensations.inOrder (h : BeforeCompensations db) : CompensationsInOrder db where
  payables := h.payablesMirrored
  writeOffs := by
    refine .of_unposted (h.unposted (by decide)) (h.unposted (by decide))
      (takenOf_nil h.writeOffs) fun i => ?_
    simp [WriteOffUndone, h.writeOffs]
  payrolls := by
    refine .of_unposted (h.unposted (by decide)) (h.unposted (by decide))
      (takenOf_nil h.payroll.periods) fun i => ?_
    simp [Reversed, h.payroll.reversals]
  periods := h.payroll.inOrder
  lots := h.lots
  items := h.items

/-! #### One request -/

/-- Requests that have no part in compensations. -/
theorem CompensationsMirrored.aside (h : CompensationsMirrored db) (haside : Aside db db') :
    CompensationsMirrored db' where
  payables := h.payables.outside haside.posts (fun _ ht => ht.apart.2.2) haside.payables
  writeOffs := h.writeOffs.outside haside.posts (fun _ ht => ht.apart.2.2) haside.writeOffs
  payrolls := h.payrolls.outside haside.posts (fun _ ht => ht.apart.2.2) haside.payroll
  periods := h.periods.outside haside.posts (fun _ ht => ht.apart.2.2) haside.payroll
  lots := by
    obtain ⟨rows, hrows, hscale⟩ := haside.lots
    intro r hr
    rw [hrows] at hr
    rcases List.mem_append.mp hr with hr | hr
    · exact h.lots r hr
    · exact hscale r hr

/-- Requests of the payables that keep their own entries mirrored. -/
theorem CompensationsMirrored.payablesOnly (h : CompensationsMirrored db)
    (hdone : PayablesMirrored db' ∧ PayablesOnly db db') : CompensationsMirrored db' := by
  obtain ⟨hpayables, honly⟩ := hdone
  exact {
    payables := hpayables
    writeOffs := h.writeOffs.outside honly.posts (fun _ ht => ht.apart.1) (by rw [honly.losses])
    payrolls := h.payrolls.outside honly.posts (fun _ ht => ht.apart.1) honly.payroll
    periods := h.periods.outside honly.posts (fun _ ht => ht.apart.1) honly.payroll
    lots := honly.receiptItems ▸ h.lots }

/-- Requests on write-offs that keep their entries mirrored. -/
theorem CompensationsMirrored.writeOffsOnly (h : CompensationsMirrored db)
    (hdone : WriteOffsMirrored db' ∧ WriteOffsOnly db db') : CompensationsMirrored db' := by
  obtain ⟨hwriteOffs, honly⟩ := hdone
  exact {
    payables := h.payables.outside honly.posts (fun _ ht => ht.apart.1) honly.payables
    writeOffs := hwriteOffs
    payrolls := h.payrolls.outside honly.posts (fun _ ht => ht.apart.2.1) honly.payroll
    periods := h.periods.outside honly.posts (fun _ ht => ht.apart.2.1) honly.payroll
    lots := honly.purchasing ▸ h.lots }

/-- A commit rounds what has been invoiced. -/
theorem CompensationsMirrored.commit (h : CompensationsMirrored db) :
    CompensationsInOrder db.commit where
  toCompensationsMirrored := h.aside ⟨rfl, rfl, rfl, lots_of_eq rfl, .of_eq rfl⟩
  items i hi := by
    obtain ⟨item, -, rfl⟩ := List.mem_map.mp hi
    exact onGrid_numeric 3 _

theorem transfer_mirrored {r : TransferRequest} (h : CompensationsMirrored db)
    (hdone : r.run db = .ok db') : CompensationsMirrored db' := by
  cases r with
  | createTransfer req => exact h.aside (StockRequest.aside (r := .createTransfer req) hdone)
  | shipTransfer req => exact h.aside (shipTransfer_aside hdone)
  | receiveTransfer req => exact h.aside (receiveTransfer_aside hdone)
  | cancelTransfer req => exact h.aside (cancelTransfer_aside hdone)
  | investigateDiscrepancy req => exact h.aside (investigateDiscrepancy_aside hdone)
  | resolveDiscrepancy req => exact h.aside (resolveDiscrepancy_aside hdone)
  | createWriteOff req =>
    obtain ⟨⟨d, i⟩, hrun, rfl⟩ := map_eq_ok.mp hdone
    exact h.writeOffsOnly (createWriteOff_mirrored h.writeOffs hrun)
  | approveWriteOff req => exact h.writeOffsOnly (approveWriteOff_mirrored h.writeOffs hdone)
  | denyWriteOff req => exact h.writeOffsOnly (denyWriteOff_mirrored h.writeOffs hdone)
  | reverseWriteOff req => exact h.writeOffsOnly (reverseWriteOff_mirrored h.writeOffs hdone)

theorem settlement_mirrored {r : SettlementRequest} (h : CompensationsMirrored db)
    (hcents : ErpRequest.InWholeCents db (.settlement r)) (hdone : r.run db = .ok db') :
    CompensationsMirrored db' := by
  apply h.payablesOnly
  cases r with
  | recordSupplierPayment req =>
    obtain ⟨⟨d, i⟩, hrun, rfl⟩ := map_eq_ok.mp hdone
    exact recordSupplierPayment_mirrored h.payables hcents hrun
  | createSupplierCreditNote req =>
    obtain ⟨⟨d, i⟩, hrun, rfl⟩ := map_eq_ok.mp hdone
    exact createSupplierCreditNote_mirrored h.payables hcents hrun
  | reverseSupplierPayment req => exact reverseSupplierPayment_mirrored h.payables hdone
  | reverseSupplierCreditNote req => exact reverseSupplierCreditNote_mirrored h.payables hdone
  | voidPurchaseInvoice req => exact voidPurchaseInvoice_mirrored h.payables hdone

/-- The requests of the workforce modules are not rounded at their end. -/
theorem workforce_inOrder {r : WorkforceRequest} (h : CompensationsInOrder db)
    (hdone : r.exec db = .ok db') : CompensationsInOrder db' := by
  have hframe := exec_frame hdone
  have hstep := exec_payrollStep hdone
  obtain ⟨hpayrolls, hposts⟩ := h.payrolls.step h.periods hstep
  exact {
    payables := h.payables.outside hposts (fun _ ht => ht.apart.2.1) (by rw [hframe])
    writeOffs := h.writeOffs.outside hposts (fun _ ht => ht.apart.2.1) (by rw [hframe])
    payrolls := hpayrolls
    periods := hstep.inOrder h.periods
    lots := by
      rw [hframe]
      exact h.lots
    items := by
      rw [hframe]
      exact h.items }

/-- **Every request in whole cents keeps the compensations mirrored.** -/
theorem exec_compensationsInOrder {r : ErpRequest} (h : CompensationsInOrder db)
    (hcents : r.InWholeCents db) (hdone : r.exec db = .ok db') : CompensationsInOrder db' := by
  cases r with
  | stock r =>
    obtain ⟨d, hrun, rfl⟩ := map_eq_ok.mp hdone
    exact (h.toCompensationsMirrored.aside (StockRequest.aside hrun)).commit
  | transfer r =>
    obtain ⟨d, hrun, rfl⟩ := map_eq_ok.mp hdone
    exact (transfer_mirrored h.toCompensationsMirrored hrun).commit
  | createPurchaseInvoice req =>
    obtain ⟨⟨d, i⟩, hrun, rfl⟩ := map_eq_ok.mp hdone
    have hdone := createPurchaseInvoice_mirrored h.payables hrun
    exact (h.toCompensationsMirrored.payablesOnly hdone).commit
  | postPurchaseInvoice req =>
    obtain ⟨d, hrun, rfl⟩ := map_eq_ok.mp hdone
    have hdone := postPurchaseInvoice_mirrored h.payables h.lots h.items hrun
    exact (h.toCompensationsMirrored.payablesOnly hdone).commit
  | settlement r =>
    obtain ⟨d, hrun, rfl⟩ := map_eq_ok.mp hdone
    exact (settlement_mirrored h.toCompensationsMirrored hcents hrun).commit
  | workforce r => exact workforce_inOrder h hdone
  | closeAccountingPeriod req =>
    obtain ⟨books, -, rfl⟩ := map_eq_ok.mp hdone
    exact ⟨h.toCompensationsMirrored.aside ⟨rfl, rfl, rfl, lots_of_eq rfl, .of_eq rfl⟩, h.items⟩

/-- Each kind of document mirrors its compensations. -/
theorem CompensationsMirrored.cancels (h : CompensationsMirrored db) {kind : Compensable} {i : ℕ}
    (hundone : kind.Undone db i) (s : ℕ) (a : Account) :
    documentNet db kind.posting i s a + documentNet db kind.compensation i s a = 0 := by
  cases kind with
  | purchaseInvoice =>
    obtain ⟨invoice, hinvoice, hvoided⟩ := hundone
    have hdated := h.payables.traced.dated invoice (mem_of_row hinvoice)
    exact h.payables.invoices.cancels ⟨invoice, hinvoice, hdated.voided hvoided⟩ s a
  | settlement way => exact (h.payables.ways way).cancels hundone s a
  | transferWriteOff => exact h.writeOffs.cancels hundone s a
  | payrollPeriod => exact h.payrolls.cancels hundone s a

/-! ### Runs -/

/-- **Whatever is done in between, a document that is undone comes to nothing in every account
of every store, and is compensated at most once**, where payments and credit notes come to
whole cents. -/
theorem compensations_cancel (hstart : BeforeCompensations db)
    (h : Reaches ErpRequest.exec ErpRequest.InWholeCents db db') (kind : Compensable) (i : ℕ) :
    (kind.Undone db' i → ∀ (s : ℕ) (a : Account),
      documentNet db' kind.posting i s a + documentNet db' kind.compensation i s a = 0) ∧
    (entriesFor db' kind.compensation i).length ≤ 1 := by
  have horder : CompensationsInOrder db' :=
    h.invariant hstart.inOrder fun _ _ _ hs hcents hdone =>
      exec_compensationsInOrder hs hcents hdone
  exact ⟨fun hundone s a => horder.cancels hundone s a,
    horder.periods.sources.length_entriesFor_le kind.compensation i⟩

/-- The general reversal is for manual entries: no entry of a document is undone by it. -/
theorem automated_entry_not_reversed (req : ReverseJournalEntry) (entry : BookEntry) :
    loadForReversal db.books req ≠ .ok entry := by
  intro h
  unfold loadForReversal at h
  simp only [bind_eq_ok, orRaise_eq_ok, ↓check_bind_eq_ok, raiseIf_eq_ok, not_not] at h
  obtain ⟨row, hrow, -, hmanual, -⟩ := h
  obtain ⟨e, -, rfl⟩ := List.mem_map.mp (mem_of_row hrow)
  cases hmanual

end Steps

/-! ### A payment taken back -/

theorem greengrocer_beforeCompensations : BeforeCompensations greengrocer where
  payables := rfl
  writeOffs := rfl
  payroll := {
    periods := rfl
    results := rfl
    reversals := rfl
    sources := List.nodup_nil
    entries := by simp [greengrocer] }
  entries := by simp [greengrocer]
  lots := by simp [greengrocer]
  items := by simp [greengrocer]

/-- Seven apples are ordered, delivered and billed; some of the bill is paid, and the payment
reversed. -/
def payAndTakeBack (amount : ℚ) : List ErpRequest :=
  [.stock (.createPurchaseOrder orderApples),
    .stock (.submitPurchaseOrder ⟨0, none⟩),
    .stock (.receiveGoods (deliverApples 7 1 "receipt-1")),
    .createPurchaseInvoice
      { storeId := 0, supplierId := 0, invoiceNumber := "A-1", invoiceDate := 0
        lines := [{ purchaseOrderItemId := 0, quantityInvoiced := 7, unitPrice := 1 }]
        clientTransactionId := "invoice-1", callerStoreId := none, purchaseOrderId := some 0 },
    .postPurchaseInvoice ⟨0, none, 1⟩,
    .settlement (.recordSupplierPayment
      { storeId := 0, supplierId := 0, paymentDate := 1, paymentMethod := .cash, amount
        allocations := [⟨0, amount⟩], clientTransactionId := "payment-1"
        callerStoreId := none }),
    .settlement (.reverseSupplierPayment
      { supplierPaymentId := 0, reason := "bounced", callerStoreId := none, reversedBy := some 0
        today := 2 })]

/-- Four are paid and taken back, and the bill is voided. -/
def billTakenBack : Db :=
  value ((payAndTakeBack 4 ++ [ErpRequest.settlement (.voidPurchaseInvoice ⟨0, none, 3⟩)]).foldlM
    (guarded ErpRequest.exec ErpRequest.InWholeCents .assertion) greengrocer) (by decide +kernel)

/-- Neither the payment nor the bill leaves anything. -/
theorem compensations_cancel_apples :
    (∀ kind ∈ [Compensable.settlement .payment, .purchaseInvoice], kind.Undone billTakenBack 0) ∧
      ∀ kind ∈ [Compensable.settlement .payment, .purchaseInvoice],
        (∀ (s : ℕ) (a : Account), documentNet billTakenBack kind.posting 0 s a
          + documentNet billTakenBack kind.compensation 0 s a = 0) ∧
        (entriesFor billTakenBack kind.compensation 0).length ≤ 1 := by
  have hundone : ∀ kind ∈ [Compensable.settlement .payment, .purchaseInvoice],
      kind.Undone billTakenBack 0 := by
    intro kind hkind
    simp only [List.mem_cons, List.not_mem_nil, or_false] at hkind
    rcases hkind with rfl | rfl
    · exact show 0 ∈ (SettlementWay.payment.book billTakenBack).reversed by decide +kernel
    · have hstatus : billTakenBack.payables.invoices[0]?.map (·.val.status) = some .voided := by
        decide +kernel
      exact Option.map_eq_some_iff.mp hstatus
  refine ⟨hundone, fun kind hkind => ?_⟩
  obtain ⟨hcancels, honce⟩ := compensations_cancel greengrocer_beforeCompensations
    (reaches_of_guarded (eq_ok_value _ _)) kind 0
  exact ⟨hcancels (hundone kind hkind), honce⟩

/-- A payment of 1.005, taken back. -/
def halfCentTakenBack : Db :=
  value ((payAndTakeBack (1005 / 1000)).foldlM (fun db r => ErpRequest.exec r db) greengrocer)
    (by decide +kernel)

/-- **What is posted for the payment is 1.005, and what is posted back is 1.01.** -/
theorem reversal_off_by_half_a_cent :
    BeforeCompensations greengrocer ∧
    Reaches ErpRequest.exec (fun _ _ => True) greengrocer halfCentTakenBack ∧
    (Compensable.settlement .payment).Undone halfCentTakenBack 0 ∧
    documentNet halfCentTakenBack .supplierPayment 0 0 .accountsPayable = 1005 / 1000 ∧
    documentNet halfCentTakenBack .supplierPaymentReversal 0 0 .accountsPayable
      = -(101 / 100) := by
  refine ⟨greengrocer_beforeCompensations, reaches_of_foldlM (eq_ok_value _ _), ?_, ?_, ?_⟩
  · exact show 0 ∈ (SettlementWay.payment.book halfCentTakenBack).reversed by decide +kernel
  · decide +kernel
  · decide +kernel

end GroceryErp
