import GroceryErp.Accounting.Compensations
import GroceryErp.Payables.Liabilities

/-!
# What the requests of the payables move

Each request of the payables leaves invoices, allocations and documents standing, and moves the
three accounts of what is owed by one amount, for one store and one supplier.

## Main definitions

* `LiabilityStep` — both of that.

## Main results

* `createPurchaseInvoice_liability`, `postPurchaseInvoice_liability`,
  `voidPurchaseInvoice_liability`, `recordSupplierPayment_liability`,
  `createSupplierCreditNote_liability`, `reverseSupplierPayment_liability`,
  `reverseSupplierCreditNote_liability` — every request takes such a step.

## References

`backend/app/modules/ap/service.py`, `backend/app/modules/accounting/service.py`.
-/

namespace GroceryErp

open Decimal Ledger Outcome Rows

/-- The tables stand, and the three accounts have moved alike. -/
structure LiabilityStep (db db' : Db) : Prop where
  standing : PayablesStanding db'
  moved : ∃ s u x, LiabilityMoved s u x db db'

theorem LiabilityStep.refl {db : Db} (h : PayablesStanding db) : LiabilityStep db db :=
  ⟨h, 0, 0, 0, .refl db⟩

section Requests

variable {db db' : Db}

/-! ### Payments and credit notes -/

/-- What is checked of the invoices that allocations go to. -/
theorem areOwed_of_checkAllocations {storeId supplierId : ℕ} {code : ErrorCode}
    {allocations : List PaymentAllocationInput}
    (h : checkAllocations db storeId supplierId code allocations = .ok ()) :
    AreOwed db.payables.invoices storeId supplierId allocations := by
  unfold checkAllocations at h
  rw [bind_eq_ok] at h
  obtain ⟨invoices, hinvoices, hchecks⟩ := h
  rw [forM_eq_ok] at hchecks
  intro a ha
  obtain ⟨loaded, hloaded, hload⟩ := exists_of_mapM hinvoices ha
  simp only [bind_eq_ok, orRaise_eq_ok, pure_eq_ok] at hload
  obtain ⟨invoice, hrow, rfl⟩ := hload
  have hcheck := hchecks _ hloaded
  simp only [↓check_bind_eq_ok, raiseIf_eq_ok, not_not] at hcheck
  obtain ⟨hstore, hsupplier, hstatus, -⟩ := hcheck
  rw [not_and_or, not_not, not_not] at hstatus
  have houtstanding : invoice.val.status.IsOutstanding := hstatus
  exact ⟨invoice, hrow, hstore, hsupplier, houtstanding.counted, if_pos houtstanding⟩

/-- What a document that is not reversed has settled is of invoices that count. -/
theorem PayablesStanding.areOwed_back (h : PayablesStanding db) {way : SettlementWay} {d : ℕ}
    {document : SettlementDocument} (hdocument : (way.documentRows db)[d]? = some document)
    (hfresh : d ∉ (way.book db).reversed) :
    AreOwed db.payables.invoices document.storeId document.supplierId
      (((way.book db).inputsOf d).map (·.back)) := by
  intro x hx
  obtain ⟨a, ha, rfl⟩ := List.mem_map.mp hx
  obtain ⟨invoice, hinvoice, hstore, hsupplier⟩ := (h.allocated way d document hdocument).2 a ha
  have hstanding := h.invoices _ invoice hinvoice
  have hsettled : invoice.val.status = .partiallyPaid ∨ invoice.val.status = .paid := by
    by_contra hnot
    rw [not_or] at hnot
    have hclear := hstanding.clear hnot.1 hnot.2 way
    exact hclear.not_mem_inputsOf hfresh (List.mem_map_of_mem (f := (·.purchaseInvoiceId)) ha)
  refine ⟨invoice, hinvoice, hstore, hsupplier, ?_, ?_⟩
  · rcases hsettled with hstatus | hstatus <;> rw [hstatus] <;> decide
  · unfold PurchaseInvoice.owed
    rcases hsettled with hstatus | hstatus
    · rw [if_pos (.inr hstatus)]
    · -- an invoice that is paid owes nothing
      rw [hstanding.full hstatus, ite_self]

theorem PayablesStanding.inCents (h : PayablesStanding db) :
    ∀ i ∈ db.payables.invoices, i.val.InCents := by
  intro invoice hinvoice way
  obtain ⟨i, hi⟩ := List.getElem?_of_mem hinvoice
  rw [(h.invoices i invoice hi).settled way]
  exact (h.books way).cents_unreversed i

/-- Reversals are of documents that are there. -/
theorem PayablesStanding.reversed_known (h : PayablesStanding db) (way : SettlementWay) :
    ∀ d ∈ (way.book db).reversed, d < (way.documentRows db).length := by
  rw [length_documentRows]
  exact (h.books way).reversed

/-- A document is allocated in full, so it comes to whole cents. -/
theorem PayablesStanding.cents (h : PayablesStanding db) {way : SettlementWay} {d : ℕ}
    {document : SettlementDocument} (hdocument : (way.documentRows db)[d]? = some document) :
    OnGrid 2 document.amount := by
  rw [← (h.allocated way d document hdocument).1]
  refine onGrid_sum _ fun x hx => ?_
  obtain ⟨a, ha, rfl⟩ := List.mem_map.mp hx
  obtain ⟨y, hy, rfl⟩ := List.mem_map.mp ha
  exact (h.books way).cents y (List.mem_filter.mp hy).1

/-- What is allocated of a document comes back with its reversal. -/
theorem PayablesStanding.sum_back (h : PayablesStanding db) {way : SettlementWay} {d : ℕ}
    {document : SettlementDocument} (hdocument : (way.documentRows db)[d]? = some document) :
    ((((way.book db).inputsOf d).map (·.back)).map (·.amount)).sum = -document.amount := by
  rw [← (h.allocated way d document hdocument).1, List.map_map, List.sum_neg, List.map_map]
  rfl

section Settlements

variable {way : SettlementWay} {document : SettlementDocument}
  {inputs : List PaymentAllocationInput}

/-- A document is recorded, and its entry posted. -/
theorem LiabilityStep.of_recorded (h : PayablesStanding db)
    (hamounts : ∀ a ∈ inputs, 0 < a.amount ∧ OnGrid 2 a.amount)
    (hbooks : ∀ other : SettlementWay,
      other.book db' = if other = way then (way.book db).record inputs else other.book db)
    (hdocuments : ∀ other : SettlementWay, other.documentRows db'
      = if other = way then way.documentRows db ++ [document] else other.documentRows db)
    (hinvoices : Settled way inputs db.payables.invoices db'.payables.invoices)
    (howed : AreOwed db.payables.invoices document.storeId document.supplierId inputs)
    (hsum : (inputs.map (·.amount)).sum = document.amount)
    (hledger : ∀ (p : ℕ → Prop) [DecidablePred p],
      ledgerOwed db' p = ledgerOwed db p + if p document.storeId then -document.amount else 0) :
    LiabilityStep db db' := by
  refine ⟨h.recorded way hamounts hbooks hdocuments hinvoices howed hsum, _, _, _,
    .recorded way document hdocuments (fun other => ?_) (h.reversed_known way) hinvoices howed hsum
      hledger⟩
  rw [hbooks]
  split
  · next hother =>
    subst hother
    rfl
  · rfl

/-- A document is reversed, and its entry posted the other way. -/
theorem LiabilityStep.of_reversed (h : PayablesStanding db) {d : ℕ}
    (hdocument : (way.documentRows db)[d]? = some document) (hfresh : d ∉ (way.book db).reversed)
    (hbooks : ∀ other : SettlementWay,
      other.book db' = if other = way then (way.book db).reverse d else other.book db)
    (hdocuments : ∀ other : SettlementWay, other.documentRows db' = other.documentRows db)
    (hinvoices : Settled way (((way.book db).inputsOf d).map (·.back)) db.payables.invoices
      db'.payables.invoices)
    (hledger : ∀ (p : ℕ → Prop) [DecidablePred p],
      ledgerOwed db' p = ledgerOwed db p + if p document.storeId then document.amount else 0) :
    LiabilityStep db db' := by
  have hknown : d < (way.book db).documents := by
    rw [← length_documentRows]
    exact (List.getElem?_eq_some_iff.mp hdocument).1
  refine ⟨h.reversed way hknown hfresh hbooks hdocuments hinvoices, _, _, _,
    .reversed (d := d) way hdocuments (fun other => ?_) hdocument hinvoices
      (h.areOwed_back hdocument hfresh) (h.sum_back hdocument) hledger⟩
  rw [hbooks]
  split <;> rfl

end Settlements

/-- Rows that are written for some inputs, as the book has them. -/
theorem allocations_of_rows {α : Type} [Table α] {rows : List (Row α)}
    {inputs : List PaymentAllocationInput} {row : PaymentAllocationInput → α} (documents : ℕ)
    (view : α → Allocation) (hrows : rows.map Subtype.val = inputs.map row)
    (hview : ∀ a ∈ inputs, view (row a) = ⟨documents, a.purchaseInvoiceId, a.amount⟩) :
    rows.map (fun r => view r.val)
      = inputs.map fun a => ⟨documents, a.purchaseInvoiceId, a.amount⟩ := by
  have hvals := congrArg (List.map view) hrows
  rw [List.map_map, List.map_map] at hvals
  exact hvals.trans (List.map_congr_left hview)

/-- What a debit of Accounts Payable and a credit of another account say is owed. -/
theorem owed_of_pair {cr : Account} (hcr : cr ≠ .accountsPayable) {x : ℚ} (hx : 0 ≤ x)
    (hgrid : OnGrid 6 x) : -net .accountsPayable ((pair .accountsPayable cr x).map storedLine) = -x := by
  rw [net_map_storedLine_pair hx hgrid, if_pos rfl, if_neg hcr, add_zero]

/-- What a debit of another account and a credit of Accounts Payable say is owed. -/
theorem owed_of_swap {dr : Account} (hdr : dr ≠ .accountsPayable) {x : ℚ} (hx : OnGrid 6 x) :
    -net .accountsPayable ([debit dr x, credit .accountsPayable x].map storedLine) = x := by
  rw [net_storedLine_swap hx, if_neg hdr, if_pos rfl, zero_add, neg_neg]

/-- **A payment lowers what is owed by its amount.** -/
theorem recordSupplierPayment_liability {req : RecordSupplierPayment} {paymentId : ℕ}
    (h : PayablesStanding db) (hcents : ∀ a ∈ req.allocations, OnGrid 2 a.amount)
    (hdone : recordSupplierPayment db req = .ok (db', paymentId)) : LiabilityStep db db' := by
  rcases recordSupplierPayment_ok hdone with rfl | ⟨hinputs, hsum, hcheck, payment, rows, d,
    hpayment, hrows, hd, hpost⟩
  · exact .refl h
  have hdframe := settleAll_frame hd
  have hframe := postJournalUnlessEmpty_frame hpost
  have hpayables : db'.payables = { db.payables with
      invoices := d.payables.invoices
      payments := db.payables.payments ++ [payment]
      paymentAllocations := db.payables.paymentAllocations ++ rows } := by
    rw [hframe, hdframe]
  have hamount : OnGrid 2 req.amount := by
    rw [← hsum]
    exact onGrid_sum _ fun x hx => by
      obtain ⟨a, ha, rfl⟩ := List.mem_map.mp hx
      exact hcents a ha
  have hpos := checkAllocationInputs_ok hinputs
  -- the document that is recorded
  let document : SettlementDocument := ⟨req.storeId, req.supplierId, req.amount⟩
  have hdocument : (⟨payment.val.storeId, payment.val.supplierId, payment.val.amount⟩ :
      SettlementDocument) = document := by
    rw [hpayment]
    simp only [RecordSupplierPayment.payment, document, numeric_eq_self hamount]
  have hdocuments : ∀ other : SettlementWay, other.documentRows db' = if other = .payment
      then SettlementWay.payment.documentRows db ++ [document] else other.documentRows db := by
    intro other
    cases other with
    | payment =>
      rw [if_pos rfl]
      simp only [SettlementWay.documentRows, hpayables, List.map_append, List.map_cons,
        List.map_nil, hdocument]
    | creditNote =>
      rw [if_neg (by decide)]
      simp only [SettlementWay.documentRows, hpayables]
  have hbooks : ∀ other : SettlementWay, other.book db' = if other = .payment
      then (SettlementWay.payment.book db).record req.allocations else other.book db := by
    intro other
    cases other with
    | payment =>
      have hstored := allocations_of_rows db.payables.payments.length
        (fun a : SupplierPaymentAllocation =>
          ⟨a.supplierPaymentId, a.purchaseInvoiceId, a.amount⟩) hrows fun a ha => by
            simp only [numeric_eq_self (hcents a ha)]
      rw [if_pos rfl]
      simp only [SettlementWay.book, SettlementBook.record, hpayables, List.length_append,
        List.length_singleton, List.map_append, hstored]
    | creditNote =>
      rw [if_neg (by decide)]
      simp only [SettlementWay.book, hpayables]
  have hinvoices : Settled .payment req.allocations db.payables.invoices db'.payables.invoices := by
    rw [hpayables]
    exact settleAll_ok .payment hd h.inCents hcents
  have howed : AreOwed db.payables.invoices document.storeId document.supplierId req.allocations :=
    areOwed_of_checkAllocations hcheck
  refine .of_recorded h (fun a ha => ⟨hpos a ha, hcents a ha⟩) hbooks hdocuments hinvoices howed
    hsum fun p _ => ?_
  have hnonneg : 0 ≤ req.amount := by
    rw [← hsum]
    refine List.sum_nonneg fun x hx => ?_
    obtain ⟨a, ha, rfl⟩ := List.mem_map.mp hx
    exact (hpos a ha).le
  have hmethod : req.payment.paymentMethod.account ≠ .accountsPayable := by
    cases req.payment.paymentMethod <;> decide
  have howes := owed_of_pair hmethod hnonneg (hamount.mono (by decide))
  have hentries : d.ledger.entries = db.ledger.entries := by rw [hdframe]
  refine (ledgerOwed_postJournalUnlessEmpty hpost p).trans (congrArg₂ (· + ·) ?_ ?_)
  · exact ledgerOwed_congr hentries p
  · exact if_congr Iff.rfl howes rfl

/-- **A credit note lowers what is owed by its total.** -/
theorem createSupplierCreditNote_liability {req : CreateSupplierCreditNote} {creditNoteId : ℕ}
    (h : PayablesStanding db) (hcents : ∀ a ∈ req.allocations, OnGrid 2 a.amount)
    (hdone : createSupplierCreditNote db req = .ok (db', creditNoteId)) : LiabilityStep db db' := by
  rcases createSupplierCreditNote_ok hdone with ⟨rfl, -⟩ | ⟨hcheck, -, hplan, note, lines, rows, d,
    hnote, -, hrows, hd, hpost⟩
  · exact .refl h
  obtain ⟨hsum, hchecked⟩ := planCreditNote_ok hplan
  have hdframe := settleAll_frame hd
  have hframe := postJournalUnlessEmpty_frame hpost
  have hpayables : db'.payables = { db.payables with
      invoices := d.payables.invoices
      creditNotes := db.payables.creditNotes ++ [note]
      creditNoteLines := db.payables.creditNoteLines ++ lines
      creditAllocations := db.payables.creditAllocations ++ rows } := by
    rw [hframe, hdframe]
  have htotal : OnGrid 2 req.grandTotal := by
    rw [← hsum]
    exact onGrid_sum _ fun x hx => by
      obtain ⟨a, ha, rfl⟩ := List.mem_map.mp hx
      exact hcents a ha
  have hpos := checkAllocationInputs_ok (checkCreditNoteInputs_ok hcheck)
  -- the document that is recorded
  let document : SettlementDocument := ⟨req.storeId, req.supplierId, req.grandTotal⟩
  have hdocument : (⟨note.val.storeId, note.val.supplierId, note.val.grandTotal⟩ :
      SettlementDocument) = document := by
    rw [hnote]
    simp only [CreateSupplierCreditNote.creditNote, SupplierCreditNote.stored, document,
      numeric_eq_self htotal]
  have hdocuments : ∀ other : SettlementWay, other.documentRows db' = if other = .creditNote
      then SettlementWay.creditNote.documentRows db ++ [document] else other.documentRows db := by
    intro other
    cases other with
    | creditNote =>
      rw [if_pos rfl]
      simp only [SettlementWay.documentRows, hpayables, List.map_append, List.map_cons,
        List.map_nil, hdocument]
    | payment =>
      rw [if_neg (by decide)]
      simp only [SettlementWay.documentRows, hpayables]
  have hbooks : ∀ other : SettlementWay, other.book db' = if other = .creditNote
      then (SettlementWay.creditNote.book db).record req.allocations else other.book db := by
    intro other
    cases other with
    | creditNote =>
      have hstored := allocations_of_rows db.payables.creditNotes.length
        (fun a : SupplierCreditAllocation =>
          ⟨a.supplierCreditNoteId, a.purchaseInvoiceId, a.amount⟩) hrows fun a ha => by
            simp only [numeric_eq_self (hcents a ha)]
      rw [if_pos rfl]
      simp only [SettlementWay.book, SettlementBook.record, hpayables, List.length_append,
        List.length_singleton, List.map_append, hstored]
    | payment =>
      rw [if_neg (by decide)]
      simp only [SettlementWay.book, hpayables]
  have hinvoices : Settled .creditNote req.allocations db.payables.invoices
      db'.payables.invoices := by
    rw [hpayables]
    exact settleAll_ok .creditNote hd h.inCents hcents
  have howed : AreOwed db.payables.invoices document.storeId document.supplierId req.allocations :=
    areOwed_of_checkAllocations hchecked
  refine .of_recorded h (fun a ha => ⟨hpos a ha, hcents a ha⟩) hbooks hdocuments hinvoices howed
    hsum fun p _ => ?_
  have hnonneg : 0 ≤ req.grandTotal := by
    rw [← hsum]
    refine List.sum_nonneg fun x hx => ?_
    obtain ⟨a, ha, rfl⟩ := List.mem_map.mp hx
    exact (hpos a ha).le
  have hreason : req.creditNote.reason.account ≠ .accountsPayable := by
    cases req.creditNote.reason <;> decide
  have howes := owed_of_pair hreason hnonneg (htotal.mono (by decide))
  have hentries : d.ledger.entries = db.ledger.entries := by rw [hdframe]
  refine (ledgerOwed_postJournalUnlessEmpty hpost p).trans (congrArg₂ (· + ·) ?_ ?_)
  · exact ledgerOwed_congr hentries p
  · exact if_congr Iff.rfl howes rfl

/-- **The reversal of a payment raises what is owed by its amount.** -/
theorem reverseSupplierPayment_liability {req : ReverseSupplierPayment} (h : PayablesStanding db)
    (hdone : reverseSupplierPayment db req = .ok db') : LiabilityStep db db' := by
  rcases reverseSupplierPayment_ok hdone with rfl | ⟨payment, d, e, hpayment, hnew, hd, hpost, hdb'⟩
  · exact .refl h
  have hdframe := settleAll_frame hd
  have hframe := postJournal_frame hpost
  have hpayables : db'.payables = { db.payables with
      invoices := d.payables.invoices
      paymentReversals := db.payables.paymentReversals ++ [⟨req.supplierPaymentId, req.today⟩] } := by
    rw [hdb', hframe, hdframe]
  have hdocument : (SettlementWay.payment.documentRows db)[req.supplierPaymentId]?
      = some ⟨payment.val.storeId, payment.val.supplierId, payment.val.amount⟩ := by
    simp only [SettlementWay.documentRows, List.getElem?_map, hpayment, Option.map_some]
  have hfresh : req.supplierPaymentId ∉ (SettlementWay.payment.book db).reversed := by
    intro hmem
    obtain ⟨r, hr, hri⟩ := List.mem_map.mp hmem
    exact hnew ⟨r, hr, hri⟩
  rw [← inputsOf_payment] at hd
  -- a reversal by its parts: the books, the documents, the invoices, and the entry
  refine .of_reversed h hdocument hfresh (fun other => ?_) (fun other => ?_) ?_ fun p _ => ?_
  · cases other <;> simp [SettlementWay.book, SettlementBook.reverse, hpayables]
  · cases other <;> simp only [SettlementWay.documentRows, hpayables]
  · rw [hpayables]
    exact settleAll_ok .payment hd h.inCents ((h.books .payment).cents_back _)
  have hcents : OnGrid 2 payment.val.amount := h.cents hdocument
  have hmethod : payment.val.paymentMethod.account ≠ .accountsPayable := by
    cases payment.val.paymentMethod <;> decide
  have hentries : db'.ledger.entries = e.ledger.entries := by rw [hdb']
  have hbefore : d.ledger.entries = db.ledger.entries := by rw [hdframe]
  rw [ledgerOwed_congr hentries, ledgerOwed_postJournal hpost,
    owed_of_swap hmethod (hcents.mono (by decide))]
  exact congrArg (· + _) (ledgerOwed_congr hbefore p)

/-- **The reversal of a credit note raises what is owed by its total.** -/
theorem reverseSupplierCreditNote_liability {req : ReverseSupplierCreditNote}
    (h : PayablesStanding db) (hdone : reverseSupplierCreditNote db req = .ok db') :
    LiabilityStep db db' := by
  rcases reverseSupplierCreditNote_ok hdone with rfl | ⟨note, row, d, e, hnote, hnew, hd, hrow,
    hpost, hdb'⟩
  · exact .refl h
  have hdframe := settleAll_frame hd
  have hframe := postJournal_frame hpost
  have hpayables : db'.payables = { db.payables with
      invoices := d.payables.invoices
      creditNotes := db.payables.creditNotes.set req.supplierCreditNoteId row
      creditNoteReversals := db.payables.creditNoteReversals
        ++ [⟨req.supplierCreditNoteId, req.today⟩] } := by
    rw [hdb', hframe, hdframe]
  have hdocument : (SettlementWay.creditNote.documentRows db)[req.supplierCreditNoteId]?
      = some ⟨note.val.storeId, note.val.supplierId, note.val.grandTotal⟩ := by
    simp only [SettlementWay.documentRows, List.getElem?_map, hnote, Option.map_some]
  have hfresh : req.supplierCreditNoteId ∉ (SettlementWay.creditNote.book db).reversed := by
    intro hmem
    obtain ⟨r, hr, hri⟩ := List.mem_map.mp hmem
    exact hnew ⟨r, hr, hri⟩
  have hcents : OnGrid 2 note.val.grandTotal := h.cents hdocument
  rw [← inputsOf_creditNote] at hd
  refine .of_reversed h hdocument hfresh (fun other => ?_) (fun other => ?_) ?_ fun p _ => ?_
  · cases other <;> simp [SettlementWay.book, SettlementBook.reverse, hpayables]
  · cases other with
    | payment => simp only [SettlementWay.documentRows, hpayables]
    | creditNote =>
      -- the row that is written keeps the total
      simp only [SettlementWay.documentRows, hpayables]
      refine map_set_of_eq hnote ?_
      simp only [hrow, SupplierCreditNote.stored, numeric_eq_self hcents]
  · rw [hpayables]
    exact settleAll_ok .creditNote hd h.inCents ((h.books .creditNote).cents_back _)
  have hreason : note.val.reason.account ≠ .accountsPayable := by
    cases note.val.reason <;> decide
  have hentries : db'.ledger.entries = e.ledger.entries := by rw [hdb']
  have hbefore : d.ledger.entries = db.ledger.entries := by rw [hdframe]
  rw [ledgerOwed_congr hentries, ledgerOwed_postJournal hpost,
    owed_of_swap hreason (hcents.mono (by decide))]
  exact congrArg (· + _) (ledgerOwed_congr hbefore p)

/-! ### Invoices -/

/-- **A draft moves nothing**: nothing is owed on it, and no entry is posted. -/
theorem createPurchaseInvoice_liability {req : CreatePurchaseInvoice} {invoiceId : ℕ}
    (h : PayablesStanding db) (hdone : createPurchaseInvoice db req = .ok (db', invoiceId)) :
    LiabilityStep db db' := by
  unfold createPurchaseInvoice at hdone
  rw [bind_eq_ok] at hdone
  obtain ⟨found, -, hdone⟩ := hdone
  cases found with
  | some found =>
    rw [pure_eq_ok, Prod.mk.injEq] at hdone
    rw [← hdone.1]
    exact .refl h
  | none =>
    rw [bind_eq_ok] at hdone
    obtain ⟨plan, -, hinsert⟩ := hdone
    rcases insertInvoice_ok hinsert with rfl | ⟨invoice, lines, hinvoice, -, hdb'⟩
    · exact .refl h
    have hdocuments : ∀ way : SettlementWay, way.documentRows db' = way.documentRows db :=
      fun way => by cases way <;> simp only [SettlementWay.documentRows, hdb']
    have hbooks : ∀ way : SettlementWay, way.book db' = way.book db :=
      fun way => by cases way <;> simp only [SettlementWay.book, hdb']
    have hinvoices : db'.payables.invoices = db.payables.invoices ++ [invoice] := by rw [hdb']
    have hdraft : invoice.val.status = .draft := by rw [hinvoice]; rfl
    refine ⟨h.drafted hbooks hdocuments hinvoices (fun way => ?_) (by rw [hdraft]; decide) ?_,
      _, _, _, .drafted hdocuments hbooks hinvoices hdraft (by rw [hdb'])⟩
    · rw [hinvoice]
      cases way <;> rfl
    · rw [hinvoice]
      exact onGrid_numeric 2 _

/-- An invoice that is neither paid nor partly paid owes its total, once it counts. -/
theorem InvoiceStanding.balance {i : ℕ} {invoice : PurchaseInvoice}
    (h : InvoiceStanding db i invoice) (hbooks : ∀ way : SettlementWay, (way.book db).Valid)
    (hclear : ∀ way : SettlementWay, (way.book db).Clear i) :
    invoice.outstandingBalance = invoice.grandTotal := by
  have hnone : ∀ way : SettlementWay, way.settled invoice = 0 := by
    intro way
    rw [h.settled, ((hbooks way).unreversed_eq_zero i).mpr (hclear way)]
  have hpaid : invoice.amountPaid = 0 := hnone .payment
  have hcredited : invoice.amountCredited = 0 := hnone .creditNote
  unfold PurchaseInvoice.outstandingBalance
  rw [hpaid, hcredited, sub_zero, sub_zero]

/-- **A posting raises what is owed by the total of its invoice.** -/
theorem postPurchaseInvoice_liability {req : PostPurchaseInvoice} (h : PayablesStanding db)
    (hdone : postPurchaseInvoice db req = .ok db') : LiabilityStep db db' := by
  rcases postPurchaseInvoice_steps hdone with rfl | ⟨lines, plan, -, hplan, hfinish⟩
  · exact .refl h
  obtain ⟨hrow, hdraft, -⟩ := planPosting_ok hplan
  obtain ⟨rows, items, row, posted, -, -, hfound, hposted, hpost⟩ := finishPosting_ok hfinish
  obtain rfl : row = plan.invoice := Option.some.inj (hfound.symm.trans hrow)
  have hpayables : db'.payables = { db.payables with
      receiptMatches := db.payables.receiptMatches ++ rows
      invoices := db.payables.invoices.set req.purchaseInvoiceId posted } := by
    rw [postJournalUnlessEmpty_frame hpost]
  have hdocuments : ∀ way : SettlementWay, way.documentRows db' = way.documentRows db :=
    fun way => by cases way <;> simp only [SettlementWay.documentRows, hpayables]
  have hbooks : ∀ way : SettlementWay, way.book db' = way.book db :=
    fun way => by cases way <;> simp only [SettlementWay.book, hpayables]
  have hinvoices : db'.payables.invoices
      = db.payables.invoices.set req.purchaseInvoiceId posted := by rw [hpayables]
  have hparties : plan.invoice.val.SameParties posted.val := by
    rw [hposted]
    exact ⟨rfl, rfl, rfl⟩
  -- a draft has nothing settled, so the whole total is owed from here on
  have hstanding := h.invoices _ _ hrow
  have hclear := hstanding.clear (by rw [hdraft]; decide) (by rw [hdraft]; decide)
  refine ⟨h.rewritten hbooks hdocuments hrow hinvoices hparties (fun way => ?_) hclear ?_, _, _,
    plan.invoice.val.grandTotal, .rewritten hdocuments hbooks hrow hinvoices hparties ?_ ?_
      fun p _ => ?_⟩
  · rw [hposted]
    cases way <;> rfl
  · rw [hposted]
    intro hpaid
    cases hpaid
  -- before, nothing was owed on it; after, its balance is
  · have hbefore : plan.invoice.val.owed = 0 := if_neg (by rw [hdraft]; decide)
    have hafter : posted.val.owed = posted.val.outstandingBalance :=
      if_pos (by rw [hposted]; exact .inl rfl)
    have hsame : posted.val.outstandingBalance = plan.invoice.val.outstandingBalance := by
      rw [hposted]
      rfl
    rw [hbefore, hafter, hsame, hstanding.balance h.books hclear, zero_add]
  · have hbefore : ¬plan.invoice.val.status.Counted := by rw [hdraft]; decide
    have hafter : posted.val.status.Counted := by
      rw [hposted]
      constructor
      · intro hstatus
        cases hstatus
      · intro hstatus
        cases hstatus
    rw [if_neg hbefore, if_pos hafter, hparties.grandTotal, zero_add]
  -- the entry credits Accounts Payable with the total
  · rw [ledgerOwed_postJournalUnlessEmpty hpost, net_accountsPayable_purchaseInvoiceJournalLines
      plan.invoice.property.grand_total_nonneg, if_neg Bool.false_ne_true, neg_neg,
      numeric_eq_self (hstanding.total.mono (by decide))]
    rfl

/-- **A void takes back what its invoice owes.** -/
theorem voidPurchaseInvoice_liability {req : VoidPurchaseInvoice} (h : PayablesStanding db)
    (hdone : voidPurchaseInvoice db req = .ok db') : LiabilityStep db db' := by
  rcases voidPurchaseInvoice_steps hdone with rfl | ⟨invoice, hload, hcases⟩
  · exact .refl h
  obtain ⟨hrow, hstatus⟩ := loadForVoid_ok hload
  have hstanding := h.invoices _ _ hrow
  have hclear : ∀ way : SettlementWay, (way.book db).Clear req.purchaseInvoiceId := by
    rcases hstatus with hstatus | hstatus
    · exact hstanding.clear (by rw [hstatus]; decide) (by rw [hstatus]; decide)
    · exact hstanding.clear (by rw [hstatus]; decide) (by rw [hstatus]; decide)
  have hvoid : ∀ {voided : Row PurchaseInvoice} {x : ℚ},
      voided.val = { invoice.val with status := .voided, voidedAt := some req.today } →
      db'.payables = { db.payables with
        invoices := db.payables.invoices.set req.purchaseInvoiceId voided } →
      invoice.val.owed + x = 0 →
      (if invoice.val.status.Counted then invoice.val.grandTotal else 0) + x = 0 →
      (∀ (p : ℕ → Prop) [DecidablePred p], ledgerOwed db' p
        = ledgerOwed db p + if p invoice.val.storeId then x else 0) → LiabilityStep db db' := by
    intro voided x hvoided hpayables howed hcounted hledger
    have hdocuments : ∀ way : SettlementWay, way.documentRows db' = way.documentRows db :=
      fun way => by cases way <;> simp only [SettlementWay.documentRows, hpayables]
    have hbooks : ∀ way : SettlementWay, way.book db' = way.book db :=
      fun way => by cases way <;> simp only [SettlementWay.book, hpayables]
    have hinvoices : db'.payables.invoices
        = db.payables.invoices.set req.purchaseInvoiceId voided := by rw [hpayables]
    have hparties : invoice.val.SameParties voided.val := by
      rw [hvoided]
      exact ⟨rfl, rfl, rfl⟩
    have hafter : voided.val.owed = 0 :=
      if_neg (by rw [hvoided]; exact fun hout => by rcases hout with hout | hout <;> cases hout)
    have hnot : ¬voided.val.status.Counted := by
      rw [hvoided]
      exact fun hcounted => hcounted.2 rfl
    refine ⟨h.rewritten hbooks hdocuments hrow hinvoices hparties (fun way => ?_) hclear ?_, _, _, x,
      .rewritten hdocuments hbooks hrow hinvoices hparties ?_ ?_ hledger⟩
    · rw [hvoided]
      cases way <;> rfl
    · rw [hvoided]
      intro hpaid
      cases hpaid
    · rw [hafter, howed]
    · rw [if_neg hnot, hcounted]
  rcases hcases with ⟨hposted, plan, -, hfinish⟩ | ⟨hnotPosted, hwrite⟩
  · obtain ⟨items, d, row, voided, -, hpost, hfound, hvoided, hdb'⟩ := finishVoid_ok hfinish
    obtain rfl : row = invoice := Option.some.inj (hfound.symm.trans hrow)
    have hframe := postJournalUnlessEmpty_frame hpost
    have howed : row.val.owed = row.val.grandTotal := by
      rw [← hstanding.balance h.books hclear]
      exact if_pos (.inl hposted)
    have hentries : db'.ledger.entries = d.ledger.entries := by rw [hdb']
    refine hvoid hvoided (by rw [hdb', hframe]) (by rw [howed, add_neg_cancel]) ?_ fun p _ => ?_
    · rw [if_pos (by rw [hposted]; decide), add_neg_cancel]
    · rw [ledgerOwed_congr hentries, ledgerOwed_postJournalUnlessEmpty hpost,
        net_accountsPayable_purchaseInvoiceJournalLines row.property.grand_total_nonneg, if_pos rfl,
        numeric_eq_self (hstanding.total.mono (by decide))]
      rfl
  · obtain ⟨row, voided, hfound, hvoided, hdb'⟩ := writeVoided_eq_ok.mp hwrite
    obtain rfl : row = invoice := Option.some.inj (hfound.symm.trans hrow)
    -- a draft owes nothing, and its void posts nothing
    have hdraft := hstatus.resolve_right hnotPosted
    have howed : row.val.owed = 0 := if_neg (by rw [hdraft]; decide)
    refine hvoid hvoided (by rw [hdb']) (by rw [howed, add_zero]) ?_ fun p _ => ?_
    · rw [if_neg (by rw [hdraft]; decide), add_zero]
    · have hentries : db'.ledger.entries = db.ledger.entries := by rw [hdb']
      rw [ledgerOwed_congr hentries, ite_self, add_zero]

end Requests

end GroceryErp
