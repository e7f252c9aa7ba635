import GroceryErp.Payables.Invoices
import GroceryErp.Purchasing.Lifecycle

/-!
# Invoices as transactions

Posting locks the orders of its lines one by one, and only then reads the invoice again,
without a lock on it; the row is locked when it is updated.  Voiding locks the invoice
first, and the orders only where it was posted.

## Main definitions

* `invoicing` — receiving, and entering, posting and voiding invoices, as transactions.
* `InvoiceWork.Knows` — what a transaction knows of the rows it has read.
* `liveQty`, `invoicedAp` — what the posted invoices come to.

## Main results

* `postPurchaseInvoice_steps`, `voidPurchaseInvoice_steps` — a request is its steps, one
  after the other.
* `invoicing_step` — what a commit does.
* `invoicing_keeps` — what a transaction knows is kept by the commits of the others.

## References

`backend/app/modules/ap/service.py`, `backend/app/modules/purchasing/service.py`.
-/

namespace GroceryErp

open Decimal Ledger Outcome Rows Transactions

/-! ### The transactions -/

inductive InvoiceRequest
  | receiveGoods (req : ReceiveGoods)
  | createPurchaseInvoice (req : CreatePurchaseInvoice)
  | postPurchaseInvoice (req : PostPurchaseInvoice)
  | voidPurchaseInvoice (req : VoidPurchaseInvoice)

/-- The rows that are locked: orders, always before invoices of them. -/
inductive PayablesLock
  | order (purchaseOrderId : ℕ)
  | invoice (purchaseInvoiceId : ℕ)
  deriving DecidableEq

/-- How far a request has come: which statement it is at, and what it has loaded before. -/
inductive InvoiceWork
  | findReceipt (req : ReceiveGoods)
  | lockOrder (req : ReceiveGoods)
  | finishReceipt (req : ReceiveGoods) (order : PurchaseOrder) (lines : List ReceiptLine)
  | createInvoice (req : CreatePurchaseInvoice)
  | insertInvoice (req : CreatePurchaseInvoice) (plan : InvoicePlan)
  | loadForPosting (req : PostPurchaseInvoice)
  /-- The orders that are still to be locked. -/
  | lockOrders (req : PostPurchaseInvoice) (lines : List (ℕ × Row PurchaseInvoiceLine))
      (todo : List ℕ)
  /-- The update waits for the row of the invoice. -/
  | updateInvoice (req : PostPurchaseInvoice) (plan : PostingPlan)
  | finishPosting (req : PostPurchaseInvoice) (plan : PostingPlan)
  | lockInvoice (req : VoidPurchaseInvoice)
  | lockVoidOrders (req : VoidPurchaseInvoice) (invoice : Row PurchaseInvoice)
      (lines : List (ℕ × Row PurchaseInvoiceLine)) (todo : List ℕ)
  | finishVoid (req : VoidPurchaseInvoice) (invoice : Row PurchaseInvoice) (plan : VoidPlan)
  | writeVoided (req : VoidPurchaseInvoice) (invoice : Row PurchaseInvoice)
  /-- There is nothing to write. -/
  | finished

/-- The transactions; the locks are those on the rows of `purchase_orders` and
`purchase_invoices`. -/
def invoicing : Program Db PayablesLock InvoiceWork InvoiceRequest where
  start
    | .receiveGoods req => .findReceipt req
    | .createPurchaseInvoice req => .createInvoice req
    | .postPurchaseInvoice req => .loadForPosting req
    | .voidPurchaseInvoice req => .lockInvoice req
  next
    | .findReceipt req => .read fun db =>
      (findReceipt db req).toOption.map fun
        | some _ => .finished
        | none => .lockOrder req
    | .lockOrder req => .lock (.order req.purchaseOrderId) fun db =>
      (planReceipt db req).toOption.map fun p => .finishReceipt req p.1 p.2
    | .finishReceipt req order lines => .commit fun db =>
      (Db.commit <$> finishReceipt db req order lines).toOption
    | .createInvoice req => .read fun db =>
      (matchOrRejectIdempotentInvoice db req).toOption.bind fun
        | some _ => some .finished
        | none => (planInvoice db req).toOption.map fun plan => .insertInvoice req plan
    | .insertInvoice req plan => .commit fun db =>
      (insertInvoice db req plan).toOption.map fun r => r.1.commit
    | .loadForPosting req => .read fun db =>
      (loadForPosting db req).toOption.map fun
        | some lines => .lockOrders req lines (ordersOf db lines)
        | none => .finished
    | .lockOrders req lines (purchaseOrderId :: todo) => .lock (.order purchaseOrderId) fun _ =>
      some (.lockOrders req lines todo)
    | .lockOrders req lines [] => .read fun db =>
      (planPosting db req lines).toOption.map fun
        | some plan => .updateInvoice req plan
        | none => .finished
    | .updateInvoice req plan => .lock (.invoice req.purchaseInvoiceId) fun _ =>
      some (.finishPosting req plan)
    | .finishPosting req plan => .commit fun db =>
      (Db.commit <$> finishPosting db req plan).toOption
    | .lockInvoice req => .lock (.invoice req.purchaseInvoiceId) fun db =>
      (loadForVoid db req).toOption.map fun
        | some invoice =>
          if invoice.val.status = .posted then
            .lockVoidOrders req invoice (invoiceLines db req.purchaseInvoiceId)
              (ordersOf db (invoiceLines db req.purchaseInvoiceId))
          else .writeVoided req invoice
        | none => .finished
    | .lockVoidOrders req invoice lines (purchaseOrderId :: todo) =>
      .lock (.order purchaseOrderId) fun _ => some (.lockVoidOrders req invoice lines todo)
    | .lockVoidOrders req invoice lines [] => .read fun db =>
      (planVoid db req lines).toOption.map fun plan => .finishVoid req invoice plan
    | .finishVoid req invoice plan => .commit fun db =>
      (Db.commit <$> finishVoid db req invoice plan).toOption
    | .writeVoided req _ => .commit fun db =>
      (Db.commit <$> writeVoided db req).toOption
    | .finished => .commit some

/-- A posting is its steps, one after the other. -/
theorem postPurchaseInvoice_steps {db db' : Db} {req : PostPurchaseInvoice}
    (h : postPurchaseInvoice db req = .ok db') :
    db' = db ∨ ∃ lines plan, loadForPosting db req = .ok (some lines) ∧
      planPosting db req lines = .ok (some plan) ∧ finishPosting db req plan = .ok db' := by
  unfold postPurchaseInvoice at h
  rw [bind_eq_ok] at h
  obtain ⟨found, hload, h⟩ := h
  cases found with
  | none =>
    rw [pure_eq_ok] at h
    exact .inl h.symm
  | some lines =>
    rw [bind_eq_ok] at h
    obtain ⟨planned, hplan, h⟩ := h
    cases planned with
    | none =>
      rw [pure_eq_ok] at h
      exact .inl h.symm
    | some plan => exact .inr ⟨lines, plan, hload, hplan, h⟩

/-- A void is its steps, one after the other. -/
theorem voidPurchaseInvoice_steps {db db' : Db} {req : VoidPurchaseInvoice}
    (h : voidPurchaseInvoice db req = .ok db') :
    db' = db ∨ ∃ invoice, loadForVoid db req = .ok (some invoice) ∧
      ((invoice.val.status = .posted ∧
          ∃ plan, planVoid db req (invoiceLines db req.purchaseInvoiceId) = .ok plan ∧
            finishVoid db req invoice plan = .ok db') ∨
        (invoice.val.status ≠ .posted ∧ writeVoided db req = .ok db')) := by
  unfold voidPurchaseInvoice at h
  rw [bind_eq_ok] at h
  obtain ⟨found, hload, h⟩ := h
  cases found with
  | none =>
    rw [pure_eq_ok] at h
    exact .inl h.symm
  | some invoice =>
    refine .inr ⟨invoice, hload, ?_⟩
    dsimp only at h
    split at h
    · next hposted =>
      rw [bind_eq_ok] at h
      exact .inl ⟨hposted, h⟩
    · next hposted => exact .inr ⟨hposted, h⟩

/-! ### What the posted invoices come to -/

/-- The invoice counts: it has been posted, and not voided. -/
def InvoiceStatus.Counted (x : InvoiceStatus) : Prop := x ≠ .draft ∧ x ≠ .voided

instance (x : InvoiceStatus) : Decidable x.Counted := inferInstanceAs (Decidable (_ ∧ _))

/-- The invoice is there and counts, which drafts and voided ones do not. -/
def LiveInvoice (db : Db) (purchaseInvoiceId : ℕ) : Prop :=
  ∃ invoice ∈ db.payables.invoices[purchaseInvoiceId]?, invoice.val.status.Counted

instance (db : Db) (purchaseInvoiceId : ℕ) : Decidable (LiveInvoice db purchaseInvoiceId) :=
  inferInstanceAs (Decidable (∃ _ ∈ _, _))

/-- The line quantities of the posted, non-voided invoices of an order item. -/
def liveQty (db : Db) (itemId : ℕ) : ℚ :=
  sumWhere (fun l => l.val.purchaseOrderItemId = itemId ∧ LiveInvoice db l.val.purchaseInvoiceId)
    (·.val.quantityInvoiced) db.payables.lines

/-- The entries for an invoice, its void among them. -/
def IsInvoiceEntry (purchaseInvoiceId : ℕ) (sourceType : SourceType) (sourceId : ℕ) : Prop :=
  (sourceType = .purchaseInvoice ∨ sourceType = .purchaseInvoiceVoid) ∧
    sourceId = purchaseInvoiceId

instance (i : ℕ) (t : SourceType) (j : ℕ) : Decidable (IsInvoiceEntry i t j) :=
  inferInstanceAs (Decidable (_ ∧ _))

/-- What the entries for an invoice add to Accounts Payable, credits positive. -/
def invoicedAp (db : Db) (purchaseInvoiceId : ℕ) : ℚ :=
  -sumWhere (fun e => IsInvoiceEntry purchaseInvoiceId e.val.sourceType e.val.sourceId)
    (entryNet .accountsPayable) db.ledger.entries

/-- The total of an invoice that counts, nothing for any other. -/
def liveTotal (db : Db) (purchaseInvoiceId : ℕ) : ℚ :=
  match db.payables.invoices[purchaseInvoiceId]? with
  | some invoice => if invoice.val.status.Counted then numeric 6 invoice.val.grandTotal else 0
  | none => 0

/-- Order items and lines are as their columns keep them, and the invoiced quantities are
those of the posted invoices. -/
structure Db.InvoicedMatch (db : Db) : Prop where
  items : ∀ i ∈ db.purchasing.orderItems, i.val.stored = i.val
  lines : ∀ l ∈ db.payables.lines, OnGrid 3 l.val.quantityInvoiced
  invoiced : ∀ (i : ℕ) (item : Row PurchaseOrderItem),
    db.purchasing.orderItems[i]? = some item → item.val.quantityInvoiced = liveQty db i

/-- What the entries for each invoice add to Accounts Payable is its total, where it counts. -/
def Db.PayableMatch (db : Db) : Prop := ∀ i, invoicedAp db i = liveTotal db i

/-! ### What a commit does -/

/-- A commit that neither posts nor voids: it may bring drafts, and receive goods for an
order that is locked. -/
structure InvoicesKept (locked : ℕ → Prop) (db db' : Db) : Prop where
  invoices : ∃ new, db'.payables.invoices = db.payables.invoices ++ new ∧
    ∀ i ∈ new, i.val.status = .draft
  lines : ∃ new, db'.payables.lines = db.payables.lines ++ new ∧ ∀ l ∈ new,
    OnGrid 3 l.val.quantityInvoiced ∧ l.val.purchaseInvoiceId = db.payables.invoices.length
  items : Overwritten (fun _ old item => item.val.stored = item.val ∧
    item.val.purchaseOrderId = old.val.purchaseOrderId ∧
    item.val.quantityInvoiced = old.val.quantityInvoiced ∧
    (item = old ∨ locked old.val.purchaseOrderId)) db.purchasing.orderItems
      db'.purchasing.orderItems
  payable : ∀ i, invoicedAp db' i = invoicedAp db i

/-- A commit that brings an invoice to a status, and changes the invoiced quantities of the
order items that were loaded. -/
structure InvoiceMoved (purchaseInvoiceId : ℕ) (row : Row PurchaseInvoice)
    (status : InvoiceStatus) (loaded : List (ℕ × Row PurchaseOrderItem)) (change : ℕ → ℚ)
    (owed : ℚ) (db db' : Db) : Prop where
  found : db.payables.invoices[purchaseInvoiceId]? = some row
  invoices : ∃ row', db'.payables.invoices = db.payables.invoices.set purchaseInvoiceId row' ∧
    row'.val.status = status ∧ row'.val.grandTotal = row.val.grandTotal
  lines : db'.payables.lines = db.payables.lines
  items : Overwritten (fun i old item => item.val.stored = item.val ∧
    item.val.purchaseOrderId = old.val.purchaseOrderId ∧
    ((∃ x ∈ loaded, x.1 = i ∧
        item.val.quantityInvoiced = numeric 3 (x.2.val.quantityInvoiced + change i)) ∨
      (i ∉ loaded.map (·.1) ∧ item = old))) db.purchasing.orderItems db'.purchasing.orderItems
  payable : ∀ i, invoicedAp db' i = invoicedAp db i + if i = purchaseInvoiceId then owed else 0

/-- What a transaction that commits has done to the invoices. -/
inductive InvoiceStep (db : Db) : InvoiceWork → Db → Prop
  | kept {t : InvoiceWork} {db' : Db} (h : InvoicesKept (fun _ => False) db db') :
      InvoiceStep db t db'
  | received {req : ReceiveGoods} {order : PurchaseOrder} {lines : List ReceiptLine} {db' : Db}
      (h : InvoicesKept (· = req.purchaseOrderId) db db') :
      InvoiceStep db (.finishReceipt req order lines) db'
  | posted {req : PostPurchaseInvoice} {plan : PostingPlan} {row : Row PurchaseInvoice} {db' : Db}
      (h : InvoiceMoved req.purchaseInvoiceId row .posted plan.items (requestedByItem plan.lines)
        (numeric 6 plan.invoice.val.grandTotal) db db') :
      InvoiceStep db (.finishPosting req plan) db'
  | unposted {req : VoidPurchaseInvoice} {invoice row : Row PurchaseInvoice} {plan : VoidPlan}
      {db' : Db} (h : InvoiceMoved req.purchaseInvoiceId row .voided plan.items
        (fun i => -requestedByItem plan.lines i) (-numeric 6 invoice.val.grandTotal) db db') :
      InvoiceStep db (.finishVoid req invoice plan) db'
  | voided {req : VoidPurchaseInvoice} {invoice row : Row PurchaseInvoice} {db' : Db}
      (h : InvoiceMoved req.purchaseInvoiceId row .voided [] (fun _ => 0) 0 db db') :
      InvoiceStep db (.writeVoided req invoice) db'

section Steps

variable {db db' : Db}

/-- The rows of order items, each stored by the commit. -/
theorem overwritten_commit {R : ℕ → Row PurchaseOrderItem → Row PurchaseOrderItem → Prop}
    {ts : List (Row PurchaseOrderItem)} {d : Db} (h : Overwritten R ts d.purchasing.orderItems) :
    Overwritten (fun i old item => ∃ written, R i old written ∧ item.val = written.val.stored) ts
      d.commit.purchasing.orderItems :=
  h.trans (Overwritten.of_map _ _) fun _ _ b _ hb hstored => ⟨b, hb, by rw [hstored]⟩

theorem stored_of_eq {item written : Row PurchaseOrderItem} (h : item.val = written.val.stored) :
    item.val.stored = item.val := by
  rw [h, written.val.stored_stored]

/-- A row that is not written stays as it is. -/
theorem eq_of_stored {item old : Row PurchaseOrderItem} (h : item.val = old.val.stored)
    (hold : old.val.stored = old.val) : item = old :=
  Subtype.ext (h.trans hold)

/-- Where nothing but journal entries of other kinds and order items has been written. -/
theorem invoicedAp_post {storeId sourceId : ℕ} {postingDate : Date} {sourceType : SourceType}
    {ls : List JournalLine}
    (h : postJournalUnlessEmpty db storeId postingDate sourceType sourceId ls = .ok db') (i : ℕ) :
    invoicedAp db' i = invoicedAp db i
      - if IsInvoiceEntry i sourceType sourceId then net .accountsPayable (ls.map storedLine)
        else 0 := by
  unfold invoicedAp
  rw [sumWhere_postJournalUnlessEmpty h fun e => IsInvoiceEntry i e.sourceType e.sourceId, neg_add,
    ← sub_eq_add_neg]

theorem invoicesKept_commit (hitems : ∀ i ∈ db.purchasing.orderItems, i.val.stored = i.val) :
    InvoicesKept (fun _ => False) db db.commit where
  invoices := ⟨[], (List.append_nil _).symm, by simp⟩
  lines := ⟨[], (List.append_nil _).symm, by simp⟩
  items := by
    have hrefl : Overwritten (fun _ a b => a = b ∧ a.val.stored = a.val) db.purchasing.orderItems
        db.purchasing.orderItems :=
      .refl _ fun i a ha => ⟨rfl, hitems a (mem_of_row ha)⟩
    refine (overwritten_commit hrefl).mono ?_
    rintro i old item ⟨written, ⟨rfl, hold⟩, hstored⟩
    obtain rfl := eq_of_stored hstored hold
    exact ⟨hold, rfl, rfl, .inl rfl⟩
  payable i := rfl

/-- Receiving writes the received quantities of the order it is for. -/
theorem invoicesKept_receipt {req : ReceiveGoods} {order : PurchaseOrder}
    {lines : List ReceiptLine} {d : Db}
    (hitems : ∀ i ∈ db.purchasing.orderItems, i.val.stored = i.val)
    (hlines : ∀ l ∈ lines, HasAt db.purchasing.orderItems (·.val.purchaseOrderId) l.itemId
      req.purchaseOrderId)
    (h : finishReceipt db req order lines = .ok d) :
    InvoicesKept (· = req.purchaseOrderId) db d.commit := by
  rcases finishReceipt_ok h with rfl | ⟨e, receiptId, hwrite, hpost⟩
  · have hkept := invoicesKept_commit hitems
    refine ⟨hkept.invoices, hkept.lines, hkept.items.mono ?_, hkept.payable⟩
    rintro i old item ⟨hstored, horder, hinvoiced, hsame⟩
    exact ⟨hstored, horder, hinvoiced, .inl (hsame.resolve_right not_false)⟩
  obtain ⟨-, receipt, rows, items, status, -, -, hlength, hwritten, -, he⟩ := writeReceipt_ok hwrite
  have hframe := postJournalUnlessEmpty_frame hpost
  have hpayables : d.payables = db.payables := by rw [hframe, he]
  have horderItems : d.purchasing.orderItems = items := by rw [hframe, he]
  refine ⟨⟨[], ?_, by simp⟩, ⟨[], ?_, by simp⟩, ?_, fun i => ?_⟩
  · show d.payables.invoices = _
    rw [hpayables, List.append_nil]
  · show d.payables.lines = _
    rw [hpayables, List.append_nil]
  -- the received quantities grow on the items that the lines name, all of them of the one order
  · have hover : Overwritten (fun i old item => db.purchasing.orderItems[i]? = some old ∧
        item.val = { old.val with
          quantityReceived := old.val.quantityReceived + receivedQty lines i })
        db.purchasing.orderItems d.purchasing.orderItems := by
      rw [horderItems]
      refine ⟨hlength, fun i old hold => ?_⟩
      obtain ⟨item, hitem, hval⟩ := hwritten i old hold
      exact ⟨item, hitem, hold, hval⟩
    refine (overwritten_commit hover).mono ?_
    rintro i old item ⟨written, ⟨hold, hval⟩, hstored⟩
    have holdStored := hitems old (mem_of_row hold)
    refine ⟨stored_of_eq hstored, by rw [hstored, hval]; rfl, ?_, ?_⟩
    · rw [hstored, hval]
      show old.val.stored.quantityInvoiced = _
      rw [holdStored]
    -- an item that a line names is of that order; any other is stored as it was
    by_cases hi : i ∈ lines.map (·.itemId)
    · obtain ⟨l, hl, rfl⟩ := List.mem_map.mp hi
      exact .inr ((hlines l hl).eq_of_row hold)
    · refine .inl (eq_of_stored (hstored.trans ?_) holdStored)
      rw [hval, receivedQty_eq_zero hi, add_zero]
  -- a receipt posts under a source of its own, and so nothing for the invoice
  · have hentries : e.ledger.entries = db.ledger.entries := by rw [he]
    have hpurchase : ¬IsInvoiceEntry i .purchaseReceipt receiptId := by
      rintro ⟨hsource | hsource, -⟩ <;> cases hsource
    show invoicedAp d i = _
    rw [invoicedAp_post hpost, if_neg hpurchase, sub_zero, invoicedAp, invoicedAp, hentries]

/-- The invoiced quantities that have been written, stored by the commit. -/
theorem invoicedWritten_commit {change : ℕ → ℚ} {loaded : List (ℕ × Row PurchaseOrderItem)}
    {d : Db} (hitems : ∀ i ∈ db.purchasing.orderItems, i.val.stored = i.val)
    (h : InvoicedWritten change loaded db.purchasing.orderItems d.purchasing.orderItems) :
    Overwritten (fun i old item => item.val.stored = item.val ∧
      item.val.purchaseOrderId = old.val.purchaseOrderId ∧
      ((∃ x ∈ loaded, x.1 = i ∧
          item.val.quantityInvoiced = numeric 3 (x.2.val.quantityInvoiced + change i)) ∨
        (i ∉ loaded.map (·.1) ∧ item = old))) db.purchasing.orderItems
        d.commit.purchasing.orderItems := by
  obtain ⟨hlength, hrows⟩ := overwritten_commit h
  refine ⟨hlength, fun i old hold => ?_⟩
  obtain ⟨item, hitem, written, hwritten, hstored⟩ := hrows i old hold
  refine ⟨item, hitem, stored_of_eq hstored, ?_⟩
  rcases hwritten with ⟨x, hx, hxi, hval⟩ | ⟨hnot, rfl⟩
  · rw [hstored, hval]
    exact ⟨rfl, .inl ⟨x, hx, hxi, rfl⟩⟩
  · obtain rfl := eq_of_stored hstored (hitems written (mem_of_row hold))
    exact ⟨rfl, .inr ⟨hnot, rfl⟩⟩

theorem isInvoiceEntry_posted {i j : ℕ} : IsInvoiceEntry i .purchaseInvoice j ↔ i = j := by
  simp [IsInvoiceEntry, eq_comm]

theorem isInvoiceEntry_voided {i j : ℕ} : IsInvoiceEntry i .purchaseInvoiceVoid j ↔ i = j := by
  simp [IsInvoiceEntry, eq_comm]

/-- A posting brings the invoice to its status, and what it owes to Accounts Payable. -/
theorem invoiceMoved_posted {req : PostPurchaseInvoice} {plan : PostingPlan} {d : Db}
    (hitems : ∀ i ∈ db.purchasing.orderItems, i.val.stored = i.val)
    (h : finishPosting db req plan = .ok d) :
    ∃ row, InvoiceMoved req.purchaseInvoiceId row .posted plan.items (requestedByItem plan.lines)
      (numeric 6 plan.invoice.val.grandTotal) db d.commit := by
  obtain ⟨rows, items, row, posted, -, hwritten, hrow, hposted, hpost⟩ := finishPosting_ok h
  have hframe := postJournalUnlessEmpty_frame hpost
  have horderItems : d.purchasing.orderItems = items := by rw [hframe]
  refine ⟨row, hrow, ⟨posted, ?_, by rw [hposted], by rw [hposted]⟩, ?_, ?_, fun i => ?_⟩
  · show d.payables.invoices = _
    rw [hframe]
  · show d.payables.lines = _
    rw [hframe]
  · exact invoicedWritten_commit hitems (horderItems ▸ hwritten)
  · show invoicedAp d i = _
    rw [invoicedAp_post hpost, net_accountsPayable_purchaseInvoiceJournalLines
      plan.invoice.property.grand_total_nonneg, if_neg Bool.false_ne_true]
    simp only [isInvoiceEntry_posted]
    rw [sub_eq_add_neg]
    congr 1
    split <;> simp

/-- The void of a posted invoice takes all of it back. -/
theorem invoiceMoved_unposted {req : VoidPurchaseInvoice} {invoice : Row PurchaseInvoice}
    {plan : VoidPlan} {d : Db} (hitems : ∀ i ∈ db.purchasing.orderItems, i.val.stored = i.val)
    (h : finishVoid db req invoice plan = .ok d) :
    ∃ row, InvoiceMoved req.purchaseInvoiceId row .voided plan.items
      (fun i => -requestedByItem plan.lines i) (-numeric 6 invoice.val.grandTotal) db
      d.commit := by
  obtain ⟨items, e, row, voided, hwritten, hpost, hrow, hvoided, rfl⟩ := finishVoid_ok h
  have hframe := postJournalUnlessEmpty_frame hpost
  have horderItems : e.purchasing.orderItems = items := by rw [hframe]
  refine ⟨row, hrow, ⟨voided, rfl, by rw [hvoided], by rw [hvoided]⟩, ?_, ?_, fun i => ?_⟩
  · show e.payables.lines = _
    rw [hframe]
  · exact invoicedWritten_commit (d := { e with
      payables.invoices := db.payables.invoices.set req.purchaseInvoiceId voided }) hitems
      (horderItems ▸ hwritten)
  · show invoicedAp e i = _
    rw [invoicedAp_post hpost, net_accountsPayable_purchaseInvoiceJournalLines
      invoice.property.grand_total_nonneg, if_pos rfl]
    simp only [isInvoiceEntry_voided]
    rw [sub_eq_add_neg]
    congr 1
    split <;> simp

/-- The void of a draft writes its status only. -/
theorem invoiceMoved_voided {req : VoidPurchaseInvoice} {d : Db}
    (hitems : ∀ i ∈ db.purchasing.orderItems, i.val.stored = i.val)
    (h : writeVoided db req = .ok d) :
    ∃ row, InvoiceMoved req.purchaseInvoiceId row .voided [] (fun _ => 0) 0 db d.commit := by
  obtain ⟨row, voided, hrow, hvoided, rfl⟩ := writeVoided_eq_ok.mp h
  have hwritten : InvoicedWritten (fun _ => 0) [] db.purchasing.orderItems
      db.purchasing.orderItems :=
    .refl _ fun i a _ => .inr ⟨List.not_mem_nil, rfl⟩
  refine ⟨row, hrow, ⟨voided, rfl, by rw [hvoided], by rw [hvoided]⟩, rfl, ?_, fun i => ?_⟩
  · exact invoicedWritten_commit (d := { db with
      payables.invoices := db.payables.invoices.set req.purchaseInvoiceId voided }) hitems hwritten
  · rw [ite_self, add_zero]
    rfl

/-- **What a commit does to the invoices.** -/
theorem invoicing_step {t : InvoiceWork} {f : Db → Option Db}
    (hitems : ∀ i ∈ db.purchasing.orderItems, i.val.stored = i.val)
    (hlines : ∀ req order lines, t = .finishReceipt req order lines → ∀ l ∈ lines,
      HasAt db.purchasing.orderItems (·.val.purchaseOrderId) l.itemId req.purchaseOrderId)
    (hnext : invoicing.next t = .commit f) (hf : f db = some db') : InvoiceStep db t db' := by
  cases t with
  | findReceipt | lockOrder | createInvoice | loadForPosting | updateInvoice | lockInvoice =>
    cases hnext
  | lockOrders req lines todo => cases todo <;> cases hnext
  | lockVoidOrders req invoice lines todo => cases todo <;> cases hnext
  -- a receipt works on order items, under the lock of their order
  | finishReceipt req order lines =>
    cases hnext
    obtain ⟨d, hd, rfl⟩ := map_eq_ok.mp (toOption_eq_some.mp hf)
    exact .received (invoicesKept_receipt hitems (hlines req order lines rfl) hd)
  -- a draft is appended, or the key was there before
  | insertInvoice req plan =>
    cases hnext
    obtain ⟨⟨d, i⟩, hd, rfl⟩ := Option.map_eq_some_iff.mp hf
    have hkept := invoicesKept_commit hitems
    rcases insertInvoice_ok (toOption_eq_some.mp hd) with rfl |
      ⟨invoice, lines, hinvoice, hlines, rfl⟩
    · exact .kept hkept
    · refine .kept ⟨⟨[invoice], rfl, fun x hx => ?_⟩, ⟨lines, rfl, fun l hl => ?_⟩, hkept.items,
        fun _ => rfl⟩
      · rw [List.mem_singleton.mp hx, hinvoice]
        rfl
      · have hmem : l.val ∈ lines.map Subtype.val := List.mem_map_of_mem hl
        rw [hlines] at hmem
        obtain ⟨line, -, hline⟩ := List.mem_map.mp hmem
        rw [← hline]
        exact ⟨onGrid_numeric 3 _, rfl⟩
  -- the three commits that change the status of an invoice
  | finishPosting req plan =>
    cases hnext
    obtain ⟨d, hd, rfl⟩ := map_eq_ok.mp (toOption_eq_some.mp hf)
    obtain ⟨row, hmoved⟩ := invoiceMoved_posted hitems hd
    exact .posted hmoved
  | finishVoid req invoice plan =>
    cases hnext
    obtain ⟨d, hd, rfl⟩ := map_eq_ok.mp (toOption_eq_some.mp hf)
    obtain ⟨row, hmoved⟩ := invoiceMoved_unposted hitems hd
    exact .unposted hmoved
  | writeVoided req invoice =>
    cases hnext
    obtain ⟨d, hd, rfl⟩ := map_eq_ok.mp (toOption_eq_some.mp hf)
    obtain ⟨row, hmoved⟩ := invoiceMoved_voided hitems hd
    exact .voided hmoved
  | finished =>
    cases hnext
    obtain rfl : db = db' := Option.some.inj hf
    refine .kept ⟨⟨[], (List.append_nil _).symm, by simp⟩, ⟨[], (List.append_nil _).symm, by simp⟩,
      .refl _ fun i a ha => ?_, fun _ => rfl⟩
    exact ⟨hitems a (mem_of_row ha), rfl, rfl, .inl rfl⟩

end Steps

/-! ### What the transactions know -/

/-- The orders of the lines are locked, but for those still to be. -/
def OrdersHeld (held : PayablesLock → Prop) (db : Db)
    (lines : List (ℕ × Row PurchaseInvoiceLine)) (todo : List ℕ) : Prop :=
  ∀ l ∈ lines, ∀ item, db.purchasing.orderItems[l.2.val.purchaseOrderItemId]? = some item →
    item.val.purchaseOrderId ∈ todo ∨ held (.order item.val.purchaseOrderId)

/-- What a posting knows once it has read the invoice again.  The row it has not locked: it
may have been voided since. -/
structure PostingPlan.Known (held : PayablesLock → Prop) (db : Db) (purchaseInvoiceId : ℕ)
    (plan : PostingPlan) : Prop where
  lines : plan.lines = invoiceLines db purchaseInvoiceId
  nonempty : plan.lines ≠ []
  orders : OrdersHeld held db plan.lines []
  items : LoadedItems db plan.lines plan.items
  draft : plan.invoice.val.status = .draft
  row : ∃ row, db.payables.invoices[purchaseInvoiceId]? = some row ∧
    row.val.grandTotal = plan.invoice.val.grandTotal ∧
    (row = plan.invoice ∨ row.val.status = .voided)

/-- What the void of a posted invoice knows once it has locked its row: the status, the lines as
they still are, and the orders it has locked so far. -/
structure VoidKnown (held : PayablesLock → Prop) (db : Db) (purchaseInvoiceId : ℕ)
    (invoice : Row PurchaseInvoice) (lines : List (ℕ × Row PurchaseInvoiceLine))
    (todo : List ℕ) : Prop where
  locked : held (.invoice purchaseInvoiceId)
  row : db.payables.invoices[purchaseInvoiceId]? = some invoice
  posted : invoice.val.status = .posted
  loaded : lines = invoiceLines db purchaseInvoiceId
  orders : OrdersHeld held db lines todo

/-- What a transaction knows of the rows it has read. -/
def InvoiceWork.Knows (held : PayablesLock → Prop) (db : Db) : InvoiceWork → Prop
  | finishReceipt req _ lines => held (.order req.purchaseOrderId) ∧ ∀ l ∈ lines,
      HasAt db.purchasing.orderItems (·.val.purchaseOrderId) l.itemId req.purchaseOrderId
  | lockOrders req lines todo => lines = invoiceLines db req.purchaseInvoiceId ∧ lines ≠ [] ∧
      req.purchaseInvoiceId < db.payables.invoices.length ∧ OrdersHeld held db lines todo
  | updateInvoice req plan => plan.Known held db req.purchaseInvoiceId
  | finishPosting req plan =>
      held (.invoice req.purchaseInvoiceId) ∧ plan.Known held db req.purchaseInvoiceId
  | lockVoidOrders req invoice lines todo =>
      VoidKnown held db req.purchaseInvoiceId invoice lines todo
  | finishVoid req invoice plan =>
      VoidKnown held db req.purchaseInvoiceId invoice plan.lines [] ∧
        LoadedItems db plan.lines plan.items
  | writeVoided req invoice => held (.invoice req.purchaseInvoiceId) ∧
      db.payables.invoices[req.purchaseInvoiceId]? = some invoice ∧ invoice.val.status = .draft
  | findReceipt _ | lockOrder _ | createInvoice _ | insertInvoice _ _ | loadForPosting _
  | lockInvoice _ | finished => True

/-- What a commit of a transaction with these locks leaves to the others. -/
structure InvoiceFrame (held : PayablesLock → Prop) (db db' : Db) : Prop where
  invoices : ∀ i row, db.payables.invoices[i]? = some row →
    ∃ row', db'.payables.invoices[i]? = some row' ∧ row'.val.grandTotal = row.val.grandTotal ∧
      (row' = row ∨ (held (.invoice i) ∧
        (row'.val.status = .voided ∨ ∃ plan : PostingPlan, plan.Known held db i)))
  length : db.payables.invoices.length ≤ db'.payables.invoices.length
  lines : ∀ i < db.payables.invoices.length, invoiceLines db' i = invoiceLines db i
  items : Overwritten (fun _ old item => item.val.purchaseOrderId = old.val.purchaseOrderId ∧
    (item = old ∨ held (.order old.val.purchaseOrderId))) db.purchasing.orderItems
      db'.purchasing.orderItems

section Knows

variable {db db' : Db} {held : PayablesLock → Prop}

/-- An order item that was loaded belongs to an order that is locked. -/
theorem held_of_loaded {lines : List (ℕ × Row PurchaseInvoiceLine)}
    {items : List (ℕ × Row PurchaseOrderItem)} (horders : OrdersHeld held db lines [])
    (hitems : LoadedItems db lines items) {x : ℕ × Row PurchaseOrderItem} (hx : x ∈ items) :
    held (.order x.2.val.purchaseOrderId) := by
  have hkey : x.1 ∈ invoicedItemIds lines := hitems.keys ▸ List.mem_map_of_mem hx
  rw [invoicedItemIds, mem_distinct] at hkey
  obtain ⟨l, hl, hlx⟩ := List.mem_map.mp hkey
  have hrow := hitems.current x hx
  rw [← hlx] at hrow
  exact (horders l hl x.2 hrow).resolve_left List.not_mem_nil

theorem InvoicesKept.frame {locked : ℕ → Prop} (h : InvoicesKept locked db db')
    (hlocked : ∀ id, locked id → held (.order id)) : InvoiceFrame held db db' := by
  obtain ⟨new, hnew, -⟩ := h.invoices
  obtain ⟨added, hadded, hnone⟩ := h.lines
  refine ⟨fun i row hrow => ⟨row, ?_, rfl, .inl rfl⟩, ?_, fun i hi => ?_, ?_⟩
  · rw [hnew, List.getElem?_append_left (List.getElem?_eq_some_iff.mp hrow).1, hrow]
  · rw [hnew, List.length_append]
    exact Nat.le_add_right _ _
  · unfold invoiceLines
    rw [hadded]
    refine rowsWhere_append_of_not fun l hl hli => ?_
    have hlength := (hnone l hl).2
    omega
  · refine h.items.mono fun _ old item hrow => ?_
    obtain ⟨-, horder, -, hsame | hheld⟩ := hrow
    · exact ⟨horder, .inl hsame⟩
    · exact ⟨horder, .inr (hlocked _ hheld)⟩

theorem InvoiceMoved.frame {purchaseInvoiceId : ℕ} {row : Row PurchaseInvoice}
    {status : InvoiceStatus} {loaded : List (ℕ × Row PurchaseOrderItem)} {change : ℕ → ℚ} {owed : ℚ}
    (h : InvoiceMoved purchaseInvoiceId row status loaded change owed db db')
    (hlocked : held (.invoice purchaseInvoiceId))
    (hstatus : status = .voided ∨ ∃ plan : PostingPlan, plan.Known held db purchaseInvoiceId)
    (hloaded : ∀ x ∈ loaded, db.purchasing.orderItems[x.1]? = some x.2 ∧
      held (.order x.2.val.purchaseOrderId)) : InvoiceFrame held db db' := by
  obtain ⟨row', hinvoices, hstatus', htotal⟩ := h.invoices
  refine ⟨fun i r hr => ?_, ?_, fun i _ => ?_, ?_⟩
  · rw [hinvoices, getElem?_set_of_some h.found]
    by_cases hi : purchaseInvoiceId = i
    · subst hi
      obtain rfl : r = row := Option.some.inj (hr.symm.trans h.found)
      exact ⟨row', if_pos rfl, htotal, .inr ⟨hlocked, hstatus'.symm ▸ hstatus⟩⟩
    · exact ⟨r, by rw [if_neg hi, hr], rfl, .inl rfl⟩
  · rw [hinvoices, List.length_set]
  · unfold invoiceLines
    rw [h.lines]
  · obtain ⟨hlength, hrows⟩ := h.items
    refine ⟨hlength, fun i old hold => ?_⟩
    obtain ⟨item, hitem, -, horder, hwritten⟩ := hrows i old hold
    refine ⟨item, hitem, horder, ?_⟩
    rcases hwritten with ⟨x, hx, rfl, -⟩ | ⟨-, hsame⟩
    · obtain ⟨hcurrent, hheld⟩ := hloaded x hx
      obtain rfl : x.2 = old := Option.some.inj (hcurrent.symm.trans hold)
      exact .inr hheld
    · exact .inl hsame

/-- A commit changes only rows that it has locked. -/
theorem InvoiceStep.frame {t : InvoiceWork} (h : InvoiceStep db t db') (ht : t.Knows held db) :
    InvoiceFrame held db db' := by
  cases h with
  | kept h => exact h.frame fun _ hfalse => hfalse.elim
  | received h => exact h.frame fun id hid => hid ▸ ht.1
  | posted h =>
    obtain ⟨hlocked, hplan⟩ := ht
    refine h.frame hlocked (.inr ⟨_, hplan⟩) fun x hx => ?_
    exact ⟨hplan.items.current x hx, held_of_loaded hplan.orders hplan.items hx⟩
  | unposted h =>
    obtain ⟨hvoid, hitems⟩ := ht
    refine h.frame hvoid.locked (.inl rfl) fun x hx => ?_
    exact ⟨hitems.current x hx, held_of_loaded hvoid.orders hitems hx⟩
  | voided h => exact h.frame ht.1 (.inl rfl) fun x hx => absurd hx List.not_mem_nil

/-! ### What the others' commits keep -/

variable {others : PayablesLock → Prop}

theorem OrdersHeld.stable {lines : List (ℕ × Row PurchaseInvoiceLine)} {todo : List ℕ}
    (h : OrdersHeld others db lines todo) (hframe : InvoiceFrame held db db') :
    OrdersHeld others db' lines todo := by
  intro l hl item hitem
  obtain ⟨old, hold, horder, -⟩ := hframe.items.row hitem
  rw [horder]
  exact h l hl old hold

/-- What has been loaded of items of locked orders stays as it is. -/
theorem LoadedItems.stable {lines : List (ℕ × Row PurchaseInvoiceLine)}
    {items : List (ℕ × Row PurchaseOrderItem)} (h : LoadedItems db lines items)
    (horders : OrdersHeld others db lines []) (hframe : InvoiceFrame held db db')
    (hother : ∀ key, held key → ¬others key) : LoadedItems db' lines items where
  keys := h.keys
  current x hx := by
    obtain ⟨item, hitem, -, hsame⟩ := hframe.items.2 x.1 x.2 (h.current x hx)
    rcases hsame with rfl | hheld
    · exact hitem
    · exact absurd (held_of_loaded horders h hx) (hother _ hheld)

theorem row_stable {i : ℕ} {row : Row PurchaseInvoice} (hlocked : others (.invoice i))
    (hrow : db.payables.invoices[i]? = some row) (hframe : InvoiceFrame held db db')
    (hother : ∀ key, held key → ¬others key) : db'.payables.invoices[i]? = some row := by
  obtain ⟨row', hrow', -, hsame⟩ := hframe.invoices i row hrow
  rcases hsame with rfl | ⟨hheld, -⟩
  · exact hrow'
  · exact absurd hlocked (hother _ hheld)

theorem VoidKnown.stable {i : ℕ} {invoice : Row PurchaseInvoice}
    {lines : List (ℕ × Row PurchaseInvoiceLine)} {todo : List ℕ}
    (h : VoidKnown others db i invoice lines todo) (hframe : InvoiceFrame held db db')
    (hother : ∀ key, held key → ¬others key) : VoidKnown others db' i invoice lines todo where
  locked := h.locked
  row := row_stable h.locked h.row hframe hother
  posted := h.posted
  loaded := by rw [hframe.lines i (List.getElem?_eq_some_iff.mp h.row).1, h.loaded]
  orders := h.orders.stable hframe

/-- Two transactions do not both come to posting one invoice: the first has the locks on its
orders. -/
theorem PostingPlan.Known.exclusive {i : ℕ} {plan plan' : PostingPlan}
    (h : plan.Known held db i) (h' : plan'.Known others db i) :
    ∃ key, held key ∧ others key := by
  obtain ⟨l, hl⟩ := List.exists_mem_of_ne_nil _ h.nonempty
  obtain ⟨item, hitem⟩ := h.items.mem_of_line hl
  have hrow := h.items.current _ hitem
  have hl' : l ∈ plan'.lines := by rw [h'.lines, ← h.lines]; exact hl
  exact ⟨_, (h.orders l hl item hrow).resolve_left List.not_mem_nil,
    (h'.orders l hl' item hrow).resolve_left List.not_mem_nil⟩

theorem PostingPlan.Known.stable {i : ℕ} {plan : PostingPlan} (h : plan.Known others db i)
    (hframe : InvoiceFrame held db db') (hother : ∀ key, held key → ¬others key) :
    plan.Known others db' i := by
  obtain ⟨row, hrow, htotal, hstatus⟩ := h.row
  refine ⟨?_, h.nonempty, h.orders.stable hframe, h.items.stable h.orders hframe hother, h.draft, ?_⟩
  · rw [hframe.lines i (List.getElem?_eq_some_iff.mp hrow).1, h.lines]
  · obtain ⟨row', hrow', htotal', hsame⟩ := hframe.invoices i row hrow
    refine ⟨row', hrow', htotal'.trans htotal, ?_⟩
    rcases hsame with rfl | ⟨-, hvoided | ⟨plan', hplan'⟩⟩
    · exact hstatus
    · exact .inr hvoided
    · obtain ⟨key, hheld, hothers⟩ := hplan'.exclusive h
      exact absurd hothers (hother key hheld)

/-- What a transaction knows is kept by a commit of another. -/
theorem InvoiceWork.Knows.stable {t : InvoiceWork} (h : t.Knows others db)
    (hframe : InvoiceFrame held db db') (hother : ∀ key, held key → ¬others key) :
    t.Knows others db' := by
  cases t with
  | findReceipt | lockOrder | createInvoice | insertInvoice | loadForPosting | lockInvoice
  | finished => trivial
  | finishReceipt req order lines =>
    refine ⟨h.1, fun l hl => ?_⟩
    obtain ⟨old, hold, horder⟩ := h.2 l hl
    obtain ⟨item, hitem, hsame, -⟩ := hframe.items.2 _ old hold
    exact ⟨item, hitem, hsame.trans horder⟩
  | lockOrders req lines todo =>
    obtain ⟨hlines, hne, hlength, horders⟩ := h
    exact ⟨by rw [hframe.lines _ hlength, hlines], hne, hlength.trans_le hframe.length,
      horders.stable hframe⟩
  | updateInvoice req plan => exact PostingPlan.Known.stable h hframe hother
  | finishPosting req plan => exact ⟨h.1, h.2.stable hframe hother⟩
  | lockVoidOrders req invoice lines todo => exact VoidKnown.stable h hframe hother
  | finishVoid req invoice plan =>
    exact ⟨h.1.stable hframe hother, h.2.stable h.1.orders hframe hother⟩
  | writeVoided req invoice => exact ⟨h.1, row_stable h.1 h.2.1 hframe hother, h.2.2⟩

end Knows

/-! ### The rules of a run -/

section Keeps

variable {db : Db} {held : PayablesLock → Prop}

theorem ordersHeld_ordersOf (lines : List (ℕ × Row PurchaseInvoiceLine)) :
    OrdersHeld held db lines (ordersOf db lines) := by
  intro l hl item hitem
  refine .inl ?_
  unfold ordersOf
  rw [mem_sortedIds, List.mem_filterMap]
  exact ⟨l, hl, by rw [hitem, Option.map_some]⟩

/-- One of the orders has been locked. -/
theorem OrdersHeld.lock {lines : List (ℕ × Row PurchaseInvoiceLine)} {id : ℕ} {todo : List ℕ}
    (h : OrdersHeld held db lines (id :: todo)) :
    OrdersHeld (fun key => key = .order id ∨ held key) db lines todo := by
  intro l hl item hitem
  rcases h l hl item hitem with hmem | hheld
  · rcases List.mem_cons.mp hmem with rfl | hmem
    · exact .inr (.inl rfl)
    · exact .inl hmem
  · exact .inr (.inr hheld)

theorem OrdersHeld.mono {lines : List (ℕ × Row PurchaseInvoiceLine)} {todo : List ℕ}
    {more : PayablesLock → Prop} (h : OrdersHeld held db lines todo)
    (hmore : ∀ key, held key → more key) : OrdersHeld more db lines todo :=
  fun l hl item hitem => (h l hl item hitem).imp_right (hmore _)

/-- What a transaction comes to know by a read. -/
theorem invoicing_read {t t' : InvoiceWork} {f : Db → Option InvoiceWork} (h : t.Knows held db)
    (hnext : invoicing.next t = .read f) (hf : f db = some t') : t'.Knows held db := by
  cases t with
  | lockOrder | finishReceipt | insertInvoice | updateInvoice | finishPosting | lockInvoice
  | finishVoid | writeVoided | finished => cases hnext
  | findReceipt req =>
    cases hnext
    obtain ⟨found, -, rfl⟩ := Option.map_eq_some_iff.mp hf
    cases found with
    | none => trivial
    | some r => trivial
  | createInvoice req =>
    cases hnext
    obtain ⟨found, -, hf⟩ := Option.bind_eq_some_iff.mp hf
    cases found with
    | none =>
      obtain ⟨plan, -, rfl⟩ := Option.map_eq_some_iff.mp hf
      trivial
    | some i =>
      cases hf
      trivial
  -- the lines are read before the locks on their orders, all of which are still to come
  | loadForPosting req =>
    cases hnext
    obtain ⟨found, hload, rfl⟩ := Option.map_eq_some_iff.mp hf
    cases found with
    | none => trivial
    | some lines =>
      obtain ⟨rfl, hne, hlength⟩ := loadForPosting_ok (toOption_eq_some.mp hload)
      exact ⟨rfl, hne, hlength, ordersHeld_ordersOf _⟩
  -- the plan is made under all the locks, over the invoice as it was read
  | lockOrders req lines todo =>
    cases todo with
    | cons id todo => cases hnext
    | nil =>
      cases hnext
      obtain ⟨planned, hplan, rfl⟩ := Option.map_eq_some_iff.mp hf
      cases planned with
      | none => trivial
      | some plan =>
        obtain ⟨hlines, hne, -, horders⟩ := h
        obtain ⟨hrow, hdraft, rfl, hitems, -⟩ := planPosting_ok (toOption_eq_some.mp hplan)
        exact ⟨hlines, hne, horders, hitems, hdraft, _, hrow, rfl, .inl rfl⟩
  | lockVoidOrders req invoice lines todo =>
    cases todo with
    | cons id todo => cases hnext
    | nil =>
      cases hnext
      obtain ⟨plan, hplan, rfl⟩ := Option.map_eq_some_iff.mp hf
      obtain ⟨rfl, hitems⟩ := planVoid_ok (toOption_eq_some.mp hplan)
      exact ⟨h, hitems⟩

/-- What a transaction comes to know by a lock. -/
theorem invoicing_lock {t t' : InvoiceWork} {key : PayablesLock} {f : Db → Option InvoiceWork}
    (h : t.Knows held db) (hnext : invoicing.next t = .lock key f) (hf : f db = some t') :
    t'.Knows (fun i => i = key ∨ held i) db := by
  cases t with
  | findReceipt | finishReceipt | createInvoice | insertInvoice | loadForPosting | finishPosting
  | finishVoid | writeVoided | finished => cases hnext
  -- the lock of a receipt is the order, and the lines it finds are on that order
  | lockOrder req =>
    cases hnext
    obtain ⟨⟨order, lines⟩, hplan, rfl⟩ := Option.map_eq_some_iff.mp hf
    obtain ⟨-, -, hlines⟩ := planReceipt_ok (toOption_eq_some.mp hplan)
    exact ⟨.inl rfl, fun l hl => ⟨l.item, (hlines l hl).loaded, (hlines l hl).order⟩⟩
  | lockOrders req lines todo =>
    cases todo with
    | nil => cases hnext
    | cons id todo =>
      cases hnext
      obtain rfl := Option.some.inj hf
      exact ⟨h.1, h.2.1, h.2.2.1, h.2.2.2.lock⟩
  -- here the invoice itself is locked, with what was planned before that
  | updateInvoice req plan =>
    cases hnext
    obtain rfl := Option.some.inj hf
    exact ⟨.inl rfl, h.lines, h.nonempty, h.orders.mono fun _ => .inr, h.items, h.draft, h.row⟩
  -- a void locks the invoice first, and the orders only where it was posted
  | lockInvoice req =>
    cases hnext
    obtain ⟨found, hload, rfl⟩ := Option.map_eq_some_iff.mp hf
    cases found with
    | none => trivial
    | some invoice =>
      obtain ⟨hrow, hstatus⟩ := loadForVoid_ok (toOption_eq_some.mp hload)
      dsimp only
      split
      · next hposted => exact ⟨.inl rfl, hrow, hposted, rfl, ordersHeld_ordersOf _⟩
      · next hposted => exact ⟨.inl rfl, hrow, hstatus.resolve_right hposted⟩
  | lockVoidOrders req invoice lines todo =>
    cases todo with
    | nil => cases hnext
    | cons id todo =>
      cases hnext
      obtain rfl := Option.some.inj hf
      exact ⟨.inr h.locked, h.row, h.posted, h.loaded, h.orders.lock⟩

/-- A commit of a transaction, by what it knows. -/
theorem invoicing_step_of_knows {db' : Db} {t : InvoiceWork} {f : Db → Option Db}
    (hitems : ∀ i ∈ db.purchasing.orderItems, i.val.stored = i.val) (h : t.Knows held db)
    (hnext : invoicing.next t = .commit f) (hf : f db = some db') : InvoiceStep db t db' := by
  refine invoicing_step hitems (fun req order lines ht => ?_) hnext hf
  subst ht
  exact h.2

/-- **What a transaction knows is kept by the commits of the others**, in a run that keeps
the order items as their columns do. -/
theorem invoicing_keeps {ok : Server Db PayablesLock InvoiceWork → Event InvoiceRequest → Prop}
    {I : Db → Prop} (stored : ∀ db, I db → ∀ i ∈ db.purchasing.orderItems, i.val.stored = i.val)
    (commit : ∀ sv k t d, sv.Inv I InvoiceWork.Knows → ok sv (.step k) →
      sv.sessions k = some t → InvoiceStep sv.tables t d → I d) :
    invoicing.Keeps ok I InvoiceWork.Knows where
  start sv k r _ _ := by cases r <;> trivial
  read _ _ _ _ _ _ h hnext hf := invoicing_read h hnext hf
  lock _ _ _ _ _ _ _ h hnext hf := invoicing_lock h hnext hf
  commit sv k t f d hsv hok hopen hnext hf :=
    commit sv k t d hsv hok hopen
      (invoicing_step_of_knows (stored _ hsv.tables) (hsv.sessions k t hopen) hnext hf)
  stable sv k t f d j u hsv _ hopen hnext hf hjk hj := by
    have ht := hsv.sessions k t hopen
    have hstep := invoicing_step_of_knows (stored _ hsv.tables) ht hnext hf
    refine (hsv.sessions j u hj).stable (hstep.frame ht) fun key hk hheld => ?_
    exact hjk (Option.some.inj (hheld.symm.trans hk))

end Keeps

end GroceryErp
