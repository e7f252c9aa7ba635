import GroceryErp.Accounting.Postings

/-!
# Purchase invoices

A supplier's invoice is entered as a draft.  Posting it matches its lines with the goods
received, oldest lot first, adds them to the invoiced quantities of the order items, and
posts the journal entry; voiding it takes all of that back.

## Main definitions

* `planInvoice`, `insertInvoice` — `create_purchase_invoice`, up to the insert and from it.
* `walkLots`, `fifoMatchSlices` — the lots a quantity is matched with.
* `loadForPosting`, `planPosting`, `finishPosting` — `post_purchase_invoice`: before the
  locks, under them, and what it writes.
* `loadForVoid`, `planVoid`, `finishVoid` — the same for `void_purchase_invoice`.

## Main results

* `insertInvoice_ok`, `finishPosting_ok`, `finishVoid_ok` — what a request that succeeds
  has written.

## References

`backend/app/modules/ap/service.py`.
-/

namespace GroceryErp

open Decimal Ledger Outcome Rows

/-! ### Creating -/

structure PurchaseInvoiceLineInput where
  purchaseOrderItemId : ℕ
  quantityInvoiced : ℚ
  unitPrice : ℚ
  discountAmount : ℚ := 0
  taxAmount : ℚ := 0
  deriving DecidableEq

structure CreatePurchaseInvoice where
  storeId : ℕ
  supplierId : ℕ
  invoiceNumber : String
  invoiceDate : Date
  lines : List PurchaseInvoiceLineInput
  clientTransactionId : String
  callerStoreId : Option ℕ
  purchaseOrderId : Option ℕ := none
  dueDate : Option Date := none

/-- The lines of an invoice, with their keys and in the order in which they were inserted. -/
def invoiceLines (db : Db) (purchaseInvoiceId : ℕ) : List (ℕ × Row PurchaseInvoiceLine) :=
  rowsWhere (·.val.purchaseInvoiceId = purchaseInvoiceId) db.payables.lines

/-- The invoices that carry the client's key, of which the unique index allows one. -/
def invoiceWithKey (db : Db) (key : String) : List (ℕ × Row PurchaseInvoice) :=
  rowsWhere (·.val.clientTransactionId = key) db.payables.invoices

/-- What `_generate_invoice_client_signature` takes of a line, from the columns as they are stored.
-/
def PurchaseInvoiceLine.signature (l : PurchaseInvoiceLine) : PurchaseInvoiceLineInput :=
  ⟨l.purchaseOrderItemId, l.quantityInvoiced, l.unitPrice, l.discountAmount, l.taxAmount⟩

/-- `_match_or_reject_idempotent_invoice`: the invoice that has the client's key is the answer where
supplier, number and lines are the same, the lines in whatever order. -/
def matchOrRejectIdempotentInvoice (db : Db) (req : CreatePurchaseInvoice) :
    Result (Option ℕ) := do
  match ← scalarOneOrNone (invoiceWithKey db req.clientTransactionId) with
  | none => return none
  | some (purchaseInvoiceId, existing) => do
    raiseIf (existing.val.supplierId ≠ req.supplierId ∨
        existing.val.invoiceNumber ≠ req.invoiceNumber ∨
        ¬((invoiceLines db purchaseInvoiceId).map (·.2.val.signature)).Perm req.lines)
      (.conflict .idempotencyKeyConflict)
    return some purchaseInvoiceId

/-- What is inserted besides the request's own values, once they have been checked. -/
structure InvoicePlan where
  purchaseOrderId : Option ℕ
  dueDate : Date
  /-- The lines with the products of their order items. -/
  lines : List (PurchaseInvoiceLineInput × ℕ)

/-- The checks of `create_purchase_invoice`, up to the amounts it stores. -/
def planInvoice (db : Db) (req : CreatePurchaseInvoice) : Result InvoicePlan := do
  enforceStoreAccess req.callerStoreId req.storeId
  let store ← orRaise db.master.stores[req.storeId]? .notFound
  raiseIf (¬store.isActive) .notFound
  let supplier ← orRaise db.master.suppliers[req.supplierId]? (.validation .invalidSupplier)
  raiseIf (¬supplier.isActive) (.validation .invalidSupplier)
  req.purchaseOrderId.toList.forM fun purchaseOrderId => do
    let order ← orRaise db.purchasing.orders[purchaseOrderId]? .notFound
    raiseIf (order.storeId ≠ req.storeId) (.conflict .storeMismatch)
    raiseIf (order.supplierId ≠ req.supplierId) (.conflict .supplierMismatch)
  raiseIf (isBlank req.invoiceNumber) (.validation .invalidInvoiceNumber)
  raiseIf (req.lines = []) (.validation .emptyInvoice)
  req.lines.forM fun line => do
    raiseIf (line.quantityInvoiced ≤ 0) (.validation .invalidQuantity)
    raiseIf (line.unitPrice < 0) (.validation .invalidUnitPrice)
    raiseIf (line.discountAmount < 0 ∨ line.taxAmount < 0) (.validation .invalidAmount)
  let items ← req.lines.mapM fun line =>
    orRaise db.purchasing.orderItems[line.purchaseOrderItemId]? .notFound
  items.forM fun item => do
    let order ← orRaise db.purchasing.orders[item.val.purchaseOrderId]?
      (.conflict .poItemStoreSupplierMismatch)
    raiseIf (order.storeId ≠ req.storeId ∨ order.supplierId ≠ req.supplierId)
      (.conflict .poItemStoreSupplierMismatch)
  -- the order of the header is filled in where the lines have only one
  let single : Option ℕ := match distinct (items.map (·.val.purchaseOrderId)) with
    | [purchaseOrderId] => some purchaseOrderId
    | _ => none
  return {
    purchaseOrderId := req.purchaseOrderId.or single
    dueDate := req.dueDate.getD
      (req.invoiceDate + (supplier.defaultPaymentTermsDays.getD 0 : ℕ))
    lines := req.lines.zip (items.map (·.val.productId)) }

/-- A line as its columns keep it: three decimals of a quantity, six of a price and two of an
amount. -/
def PurchaseInvoiceLineInput.row (line : PurchaseInvoiceLineInput)
    (productId purchaseInvoiceId : ℕ) : PurchaseInvoiceLine where
  purchaseInvoiceId := purchaseInvoiceId
  purchaseOrderItemId := line.purchaseOrderItemId
  productId := productId
  quantityInvoiced := numeric 3 line.quantityInvoiced
  unitPrice := numeric 6 line.unitPrice
  discountAmount := numeric 2 line.discountAmount
  taxAmount := numeric 2 line.taxAmount
  lineTotal := numeric 2
    (roundMoney (line.quantityInvoiced * line.unitPrice) - line.discountAmount + line.taxAmount)

/-- A draft with its totals, as its columns keep them. -/
def CreatePurchaseInvoice.row (req : CreatePurchaseInvoice) (plan : InvoicePlan) :
    PurchaseInvoice :=
  let subtotal := (req.lines.map fun l => roundMoney (l.quantityInvoiced * l.unitPrice)).sum
  let discountTotal := (req.lines.map (·.discountAmount)).sum
  let taxTotal := (req.lines.map (·.taxAmount)).sum
  { storeId := req.storeId
    supplierId := req.supplierId
    purchaseOrderId := plan.purchaseOrderId
    invoiceNumber := req.invoiceNumber
    invoiceDate := req.invoiceDate
    dueDate := plan.dueDate
    status := .draft
    subtotal := numeric 2 subtotal
    discountTotal := numeric 2 discountTotal
    taxTotal := numeric 2 taxTotal
    grandTotal := numeric 2 (subtotal - discountTotal + taxTotal)
    amountPaid := 0
    amountCredited := 0
    clientTransactionId := req.clientTransactionId
    postedAt := none
    voidedAt := none }

/-- The insert.  Where it meets the key of another transaction it gives the invoice that
has it, and fails where the supplier has another invoice of that number. -/
def insertInvoice (db : Db) (req : CreatePurchaseInvoice) (plan : InvoicePlan) :
    Result (Db × ℕ) :=
  match invoiceWithKey db req.clientTransactionId with
  | (winner, _) :: _ => return (db, winner)
  | [] => do
    raiseIf (∃ i ∈ db.payables.invoices,
        i.val.supplierId = req.supplierId ∧ i.val.invoiceNumber = req.invoiceNumber)
      (.conflict .duplicateSupplierInvoiceNumber)
    let purchaseInvoiceId := db.payables.invoices.length
    let invoice ← flush (req.row plan)
    let lines ← plan.lines.mapM fun l => flush (l.1.row l.2 purchaseInvoiceId)
    return ({ db with
      payables.invoices := db.payables.invoices ++ [invoice]
      payables.lines := db.payables.lines ++ lines }, purchaseInvoiceId)

/-- `create_purchase_invoice`: the tables after the request, and the id of the invoice. -/
def createPurchaseInvoice (db : Db) (req : CreatePurchaseInvoice) : Result (Db × ℕ) := do
  match ← matchOrRejectIdempotentInvoice db req with
  | some purchaseInvoiceId => return (db, purchaseInvoiceId)
  | none => do
    let plan ← planInvoice db req
    insertInvoice db req plan

/-! ### Matching -/

/-- A part of a lot that a line is matched with. -/
structure LotSlice where
  goodsReceiptItemId : ℕ
  quantity : ℚ
  unitCost : ℚ
  deriving DecidableEq

/-- The loop of `_fifo_match_slices`: the slices, and what no lot was left for. -/
def walkLots : List (ℕ × Row GoodsReceiptItem) → ℚ → ℚ → List LotSlice × ℚ
  | [], _, remaining => ([], remaining)
  | (goodsReceiptItemId, lot) :: lots, skip, remaining =>
    if lot.val.quantityReceived ≤ skip then
      walkLots lots (skip - lot.val.quantityReceived) remaining
    else
      let take := min (lot.val.quantityReceived - skip) remaining
      let slices := if 0 < take then [⟨goodsReceiptItemId, take, lot.val.unitCost⟩] else []
      if remaining - take ≤ 0 then (slices, remaining - take)
      else
        let rest := walkLots lots 0 (remaining - take)
        (slices ++ rest.1, rest.2)

/-- `_fifo_match_slices`: the lots of the receipts in the order they came, after those that are
invoiced already. They must cover what is invoiced now. -/
def fifoMatchSlices (db : Db) (purchaseOrderItemId : ℕ) (alreadyInvoicedQty additionalQty : ℚ) :
    Result (List LotSlice) := do
  let walked := walkLots
    (rowsWhere (·.val.purchaseOrderItemId = purchaseOrderItemId) db.purchasing.receiptItems)
    alreadyInvoicedQty additionalQty
  raiseIf (0 < walked.2) (.conflict .matchDataInconsistent)
  return walked.1

/-- A line with the slices it is matched with. -/
structure LineMatch where
  lineId : ℕ
  line : Row PurchaseInvoiceLine
  slices : List LotSlice

/-- What the slices are worth at their cost, before rounding. -/
def LineMatch.clearingRaw (m : LineMatch) : ℚ := (m.slices.map fun s => s.quantity * s.unitCost).sum

/-- What the price of the line makes of the difference, before rounding. -/
def LineMatch.varianceRaw (m : LineMatch) : ℚ :=
  (m.slices.map fun s => s.quantity * (m.line.val.unitPrice - s.unitCost)).sum

/-- The rows of a match as their columns keep them. -/
def LineMatch.rows (m : LineMatch) : List PurchaseInvoiceReceiptMatch :=
  m.slices.map fun s =>
    { purchaseInvoiceLineId := m.lineId
      goodsReceiptItemId := s.goodsReceiptItemId
      matchedQuantity := numeric 3 s.quantity
      matchedUnitCost := numeric 6 s.unitCost
      varianceAmount :=
        numeric 2 (roundMoney (s.quantity * (m.line.val.unitPrice - s.unitCost))) }

/-! ### Posting -/

structure PostPurchaseInvoice where
  purchaseInvoiceId : ℕ
  callerStoreId : Option ℕ
  today : Date

/-- A voided invoice cannot be posted; any other that is no draft has been. -/
def isDraft (invoice : Row PurchaseInvoice) : Result Bool := do
  raiseIf (invoice.val.status = .voided) (.conflict .invalidInvoiceState)
  return invoice.val.status = .draft

/-- What `post_purchase_invoice` does before it locks: the lines, if there is something to
post. -/
def loadForPosting (db : Db) (req : PostPurchaseInvoice) :
    Result (Option (List (ℕ × Row PurchaseInvoiceLine))) := do
  let invoice ← orRaise db.payables.invoices[req.purchaseInvoiceId]? .notFound
  enforceStoreAccess req.callerStoreId invoice.val.storeId
  if ← isDraft invoice then do
    raiseIf (invoiceLines db req.purchaseInvoiceId = []) (.conflict .emptyInvoice)
    return some (invoiceLines db req.purchaseInvoiceId)
  else return none

/-- The orders of some invoice lines, which are locked in ascending order so that two requests do
not wait for each other. -/
def ordersOf (db : Db) (lines : List (ℕ × Row PurchaseInvoiceLine)) : List ℕ :=
  sortedIds (lines.filterMap fun l =>
    db.purchasing.orderItems[l.2.val.purchaseOrderItemId]?.map (·.val.purchaseOrderId))

/-- The order items that the lines name, each once and in the order of their first line. -/
def invoicedItemIds (lines : List (ℕ × Row PurchaseInvoiceLine)) : List ℕ :=
  distinct (lines.map (·.2.val.purchaseOrderItemId))

/-- `requested_by_item`: what the lines of an invoice come to for one order item. -/
def requestedByItem (lines : List (ℕ × Row PurchaseInvoiceLine)) (itemId : ℕ) : ℚ :=
  sumWhere (·.2.val.purchaseOrderItemId = itemId) (·.2.val.quantityInvoiced) lines

/-- An order item as loaded, of which no more may be invoiced than was received. -/
def checkInvoiceable (db : Db) (lines : List (ℕ × Row PurchaseInvoiceLine)) (itemId : ℕ) :
    Result (ℕ × Row PurchaseOrderItem) := do
  let item ← orRaise db.purchasing.orderItems[itemId]? .notFound
  raiseIf (item.val.quantityReceived < item.val.quantityInvoiced + requestedByItem lines itemId)
    (.conflict .overInvoicing)
  return (itemId, item)

/-- A line is matched with what the invoices so far, and the lines before it, have left. -/
def matchLine (db : Db) (done : List LineMatch) (line : ℕ × Row PurchaseInvoiceLine) :
    Result (List LineMatch) := do
  let itemId := line.2.val.purchaseOrderItemId
  let item ← orRaise db.purchasing.orderItems[itemId]? .notFound
  let consumed :=
    sumWhere (·.line.val.purchaseOrderItemId = itemId) (·.line.val.quantityInvoiced) done
  let slices ← fifoMatchSlices db itemId (item.val.quantityInvoiced + consumed)
    line.2.val.quantityInvoiced
  return done ++ [⟨line.1, line.2, slices⟩]

/-- What a posting has loaded, and means to write. -/
structure PostingPlan where
  invoice : Row PurchaseInvoice
  lines : List (ℕ × Row PurchaseInvoiceLine)
  items : List (ℕ × Row PurchaseOrderItem)
  matched : List LineMatch

/-- What `post_purchase_invoice` reads under the locks on the orders. -/
def planPosting (db : Db) (req : PostPurchaseInvoice)
    (lines : List (ℕ × Row PurchaseInvoiceLine)) : Result (Option PostingPlan) := do
  let invoice ← orRaise db.payables.invoices[req.purchaseInvoiceId]? .notFound
  if ← isDraft invoice then do
    let items ← (invoicedItemIds lines).mapM (checkInvoiceable db lines)
    let matched ← lines.foldlM (matchLine db) []
    return some { invoice, lines, items, matched }
  else return none

/-- The invoiced quantity of an order item, counted from what was loaded. -/
def writeInvoiced (change : ℕ → ℚ) (db : Db) (loaded : ℕ × Row PurchaseOrderItem) :
    Result Db := do
  let row ← orRaise db.purchasing.orderItems[loaded.1]? .notFound
  let item ← flush
    { row.val with quantityInvoiced := loaded.2.val.quantityInvoiced + change loaded.1 }
  return { db with purchasing.orderItems := db.purchasing.orderItems.set loaded.1 item }

/-- What `post_purchase_invoice` writes: the matches, the invoiced quantities, the status and the
journal entry. -/
def finishPosting (db : Db) (req : PostPurchaseInvoice) (plan : PostingPlan) : Result Db := do
  let rows ← (plan.matched.flatMap LineMatch.rows).mapM flush
  let db ← plan.items.foldlM (writeInvoiced (requestedByItem plan.lines)) db
  let row ← orRaise db.payables.invoices[req.purchaseInvoiceId]? .notFound
  let posted ← flush { row.val with status := .posted, postedAt := some req.today }
  postPurchaseInvoiceJournal
    { db with
      payables.receiptMatches := db.payables.receiptMatches ++ rows
      payables.invoices := db.payables.invoices.set req.purchaseInvoiceId posted }
    req.purchaseInvoiceId plan.invoice.val
    (ledgerQuantize (plan.matched.map (·.clearingRaw)).sum)
    (ledgerQuantize (plan.matched.map (·.varianceRaw)).sum)

/-- `post_purchase_invoice`: read, plan and write. An invoice that another request has posted in the
meantime is left as it is. -/
def postPurchaseInvoice (db : Db) (req : PostPurchaseInvoice) : Result Db := do
  match ← loadForPosting db req with
  | none => return db
  | some lines => do
    match ← planPosting db req lines with
    | none => return db
    | some plan => finishPosting db req plan

/-! ### Voiding -/

structure VoidPurchaseInvoice where
  purchaseInvoiceId : ℕ
  callerStoreId : Option ℕ
  today : Date

/-- The invoice, if it has not been voided: nothing may have been settled of it. -/
def loadForVoid (db : Db) (req : VoidPurchaseInvoice) : Result (Option (Row PurchaseInvoice)) := do
  let invoice ← orRaise db.payables.invoices[req.purchaseInvoiceId]? .notFound
  enforceStoreAccess req.callerStoreId invoice.val.storeId
  if invoice.val.status = .voided then return none
  else do
    raiseIf (invoice.val.status = .partiallyPaid ∨ invoice.val.status = .paid)
      (.conflict .invoiceHasPayments)
    return some invoice

/-- The matches of an invoice, each with its line. -/
def matchesOf (db : Db) (purchaseInvoiceId : ℕ) :
    List (Row PurchaseInvoiceReceiptMatch × Row PurchaseInvoiceLine) :=
  db.payables.receiptMatches.filterMap fun m =>
    match db.payables.lines[m.val.purchaseInvoiceLineId]? with
    | some line => if line.val.purchaseInvoiceId = purchaseInvoiceId then some (m, line) else none
    | none => none

/-- `_clearing_and_variance_from_matches`: the two amounts of the posting, computed again from the
stored matches for the entry that undoes it. -/
def clearingAndVarianceFromMatches (db : Db) (purchaseInvoiceId : ℕ) : ℚ × ℚ :=
  let rows := matchesOf db purchaseInvoiceId
  (ledgerQuantize (rows.map fun r => r.1.val.matchedQuantity * r.1.val.matchedUnitCost).sum,
    ledgerQuantize (rows.map fun r =>
      r.1.val.matchedQuantity * (r.2.val.unitPrice - r.1.val.matchedUnitCost)).sum)

/-- `_extract_clearing_and_variance_from_journal`: the two amounts as the entry of the invoice has
them, nothing where there is no entry. -/
def clearingAndVarianceFromJournal (db : Db) (purchaseInvoiceId : ℕ) : Result (ℚ × ℚ) := do
  match ← scalarOneOrNone (db.ledger.entries.filter fun e =>
      e.val.sourceType = .purchaseInvoice ∧ e.val.sourceId = purchaseInvoiceId) with
  | none => return (0, 0)
  | some entry =>
    return (net .purchaseClearing entry.val.lines, net .purchasePriceVariance entry.val.lines)

/-- The amounts a void takes back; an invoice without matches has them in its journal. -/
def clearingAndVariance (db : Db) (purchaseInvoiceId : ℕ) : Result (ℚ × ℚ) :=
  if matchesOf db purchaseInvoiceId ≠ [] then
    return clearingAndVarianceFromMatches db purchaseInvoiceId
  else clearingAndVarianceFromJournal db purchaseInvoiceId

/-- What a void of a posted invoice has loaded, and means to write. -/
structure VoidPlan where
  lines : List (ℕ × Row PurchaseInvoiceLine)
  items : List (ℕ × Row PurchaseOrderItem)
  clearingAmount : ℚ
  priceVarianceAmount : ℚ

/-- What `void_purchase_invoice` reads of a posted invoice under the locks on the orders. -/
def planVoid (db : Db) (req : VoidPurchaseInvoice)
    (lines : List (ℕ × Row PurchaseInvoiceLine)) : Result VoidPlan := do
  let amounts ← clearingAndVariance db req.purchaseInvoiceId
  let items ← (invoicedItemIds lines).mapM fun itemId => do
    let item ← orRaise db.purchasing.orderItems[itemId]? .notFound
    return (itemId, item)
  return { lines, items, clearingAmount := amounts.1, priceVarianceAmount := amounts.2 }

/-- The void is written into the invoice: its status, and the day it is made on. -/
def writeVoided (db : Db) (req : VoidPurchaseInvoice) : Result Db := do
  let row ← orRaise db.payables.invoices[req.purchaseInvoiceId]? .notFound
  let voided ← flush { row.val with status := .voided, voidedAt := some req.today }
  return { db with payables.invoices := db.payables.invoices.set req.purchaseInvoiceId voided }

/-- What `void_purchase_invoice` writes of a posted invoice: the invoiced quantities of the order
items, the opposite entry and the status, in this order. -/
def finishVoid (db : Db) (req : VoidPurchaseInvoice) (invoice : Row PurchaseInvoice)
    (plan : VoidPlan) : Result Db := do
  let db ← plan.items.foldlM (writeInvoiced fun itemId => -requestedByItem plan.lines itemId) db
  let db ← postPurchaseInvoiceVoidJournal db req.purchaseInvoiceId invoice.val
    plan.clearingAmount plan.priceVarianceAmount req.today
  writeVoided db req

/-- `void_purchase_invoice`: of a posted invoice the invoiced quantities and the journal entry are
undone; of a draft only the status changes. -/
def voidPurchaseInvoice (db : Db) (req : VoidPurchaseInvoice) : Result Db := do
  match ← loadForVoid db req with
  | none => return db
  | some invoice =>
    if invoice.val.status = .posted then do
      let plan ← planVoid db req (invoiceLines db req.purchaseInvoiceId)
      finishVoid db req invoice plan
    else writeVoided db req

/-! ### What a request that succeeds has done -/

section Inversion

variable {db db' : Db}

/-- An insert that meets no other invoice appends a draft with its lines. -/
theorem insertInvoice_ok {req : CreatePurchaseInvoice} {plan : InvoicePlan} {invoiceId : ℕ}
    (h : insertInvoice db req plan = .ok (db', invoiceId)) :
    db' = db ∨ ∃ (invoice : Row PurchaseInvoice) (lines : List (Row PurchaseInvoiceLine)),
      invoice.val = req.row plan ∧
      lines.map Subtype.val
        = plan.lines.map (fun l => l.1.row l.2 db.payables.invoices.length) ∧
      db' = { db with
        payables.invoices := db.payables.invoices ++ [invoice]
        payables.lines := db.payables.lines ++ lines } := by
  unfold insertInvoice at h
  split at h
  · rw [pure_eq_ok, Prod.mk.injEq] at h
    exact .inl h.1.symm
  · simp only [↓check_bind_eq_ok, bind_eq_ok, pure_eq_ok, flush_eq_ok, Prod.mk.injEq] at h
    obtain ⟨-, invoice, hinvoice, lines, hlines, rfl, -⟩ := h
    refine .inr ⟨invoice, lines, hinvoice, ?_, rfl⟩
    exact map_of_mapM hlines fun l row hrow => flush_eq_ok.mp hrow

theorem isDraft_eq_true {invoice : Row PurchaseInvoice} :
    isDraft invoice = .ok true ↔ invoice.val.status = .draft := by
  unfold isDraft
  rw [check_bind_eq_ok, raiseIf_eq_ok, pure_eq_ok, decide_eq_true_iff]
  constructor
  · exact And.right
  · intro h
    exact ⟨by rw [h]; decide, h⟩

theorem loadForPosting_ok {req : PostPurchaseInvoice}
    {lines : List (ℕ × Row PurchaseInvoiceLine)} (h : loadForPosting db req = .ok (some lines)) :
    lines = invoiceLines db req.purchaseInvoiceId ∧ lines ≠ [] ∧
      req.purchaseInvoiceId < db.payables.invoices.length := by
  unfold loadForPosting at h
  simp only [↓check_bind_eq_ok, bind_eq_ok, orRaise_eq_ok] at h
  obtain ⟨invoice, hinvoice, -, draft, -, h⟩ := h
  split at h
  · rw [check_bind_eq_ok, raiseIf_eq_ok, pure_eq_ok, Option.some.injEq] at h
    obtain ⟨hne, rfl⟩ := h
    exact ⟨rfl, hne, (List.getElem?_eq_some_iff.mp hinvoice).1⟩
  · rw [pure_eq_ok] at h
    cases h

theorem checkInvoiceable_eq_ok {lines : List (ℕ × Row PurchaseInvoiceLine)} {itemId : ℕ}
    {loaded : ℕ × Row PurchaseOrderItem} :
    checkInvoiceable db lines itemId = .ok loaded ↔
      ∃ item, db.purchasing.orderItems[itemId]? = some item ∧
        item.val.quantityInvoiced + requestedByItem lines itemId ≤ item.val.quantityReceived ∧
        loaded = (itemId, item) := by
  unfold checkInvoiceable
  simp only [↓check_bind_eq_ok, bind_eq_ok, orRaise_eq_ok, raiseIf_eq_ok, pure_eq_ok, not_lt,
    @eq_comm _ _ loaded]

/-- What has been loaded of the order items that the lines name. -/
structure LoadedItems (db : Db) (lines : List (ℕ × Row PurchaseInvoiceLine))
    (items : List (ℕ × Row PurchaseOrderItem)) : Prop where
  keys : items.map (·.1) = invoicedItemIds lines
  current : ∀ x ∈ items, db.purchasing.orderItems[x.1]? = some x.2

/-- Every line's order item is among those loaded. -/
theorem LoadedItems.mem_of_line {lines : List (ℕ × Row PurchaseInvoiceLine)}
    {items : List (ℕ × Row PurchaseOrderItem)} (h : LoadedItems db lines items)
    {l : ℕ × Row PurchaseInvoiceLine} (hl : l ∈ lines) :
    ∃ item, (l.2.val.purchaseOrderItemId, item) ∈ items := by
  have hkey : l.2.val.purchaseOrderItemId ∈ items.map (·.1) := by
    rw [h.keys, invoicedItemIds, mem_distinct]
    exact List.mem_map_of_mem (f := fun l => l.2.val.purchaseOrderItemId) hl
  obtain ⟨⟨i, item⟩, hx, rfl⟩ := List.mem_map.mp hkey
  exact ⟨item, hx⟩

theorem loadedItems_of_mapM {lines : List (ℕ × Row PurchaseInvoiceLine)}
    {items : List (ℕ × Row PurchaseOrderItem)} {f : ℕ → Result (ℕ × Row PurchaseOrderItem)}
    (h : (invoicedItemIds lines).mapM f = .ok items)
    (hf : ∀ i x, f i = .ok x → x.1 = i ∧ db.purchasing.orderItems[i]? = some x.2) :
    LoadedItems db lines items where
  keys := by
    have hkeys := map_of_mapM h (g := (·.1)) (k := id) fun i x hx => (hf i x hx).1
    rw [hkeys, List.map_id]
  current x hx := by
    obtain ⟨i, -, hix⟩ := exists_of_mem_mapM h hx
    obtain ⟨rfl, hrow⟩ := hf i x hix
    exact hrow

/-- What a posting has loaded under the locks. -/
theorem planPosting_ok {req : PostPurchaseInvoice} {lines : List (ℕ × Row PurchaseInvoiceLine)}
    {plan : PostingPlan} (h : planPosting db req lines = .ok (some plan)) :
    db.payables.invoices[req.purchaseInvoiceId]? = some plan.invoice ∧
      plan.invoice.val.status = .draft ∧ plan.lines = lines ∧
      LoadedItems db lines plan.items ∧
      (∀ x ∈ plan.items, x.2.val.quantityInvoiced + requestedByItem lines x.1
        ≤ x.2.val.quantityReceived) ∧
      lines.foldlM (matchLine db) [] = .ok plan.matched := by
  unfold planPosting at h
  simp only [bind_eq_ok, orRaise_eq_ok] at h
  obtain ⟨invoice, hinvoice, draft, hdraft, h⟩ := h
  split at h
  · next htrue =>
    simp only [bind_eq_ok, pure_eq_ok, Option.some.injEq] at h
    obtain ⟨items, hitems, matched, hmatched, rfl⟩ := h
    refine ⟨hinvoice, isDraft_eq_true.mp (htrue ▸ hdraft), rfl, ?_, fun x hx => ?_, hmatched⟩
    · refine loadedItems_of_mapM hitems fun i x hx => ?_
      obtain ⟨item, hitem, -, rfl⟩ := checkInvoiceable_eq_ok.mp hx
      exact ⟨rfl, hitem⟩
    · obtain ⟨i, -, hix⟩ := exists_of_mem_mapM hitems hx
      obtain ⟨item, -, hle, rfl⟩ := checkInvoiceable_eq_ok.mp hix
      exact hle
  · rw [pure_eq_ok] at h
    cases h

theorem writeInvoiced_eq_ok {change : ℕ → ℚ} {loaded : ℕ × Row PurchaseOrderItem} :
    writeInvoiced change db loaded = .ok db' ↔
      ∃ row item, db.purchasing.orderItems[loaded.1]? = some row ∧
        item.val = { row.val with
          quantityInvoiced := loaded.2.val.quantityInvoiced + change loaded.1 } ∧
        db' = { db with purchasing.orderItems := db.purchasing.orderItems.set loaded.1 item } := by
  unfold writeInvoiced
  simp only [bind_eq_ok, orRaise_eq_ok, flush_eq_ok, pure_eq_ok, @eq_comm _ _ db', exists_and_left]

/-- What has become of the order items whose invoiced quantities were written. -/
def InvoicedWritten (change : ℕ → ℚ) (loaded : List (ℕ × Row PurchaseOrderItem)) :
    List (Row PurchaseOrderItem) → List (Row PurchaseOrderItem) → Prop :=
  Overwritten fun i old item =>
    (∃ x ∈ loaded, x.1 = i ∧ item.val = { old.val with
      quantityInvoiced := x.2.val.quantityInvoiced + change i }) ∨
    (i ∉ loaded.map (·.1) ∧ item = old)

/-- The invoiced quantities are written and nothing else. -/
theorem writeInvoicedItems_ok {change : ℕ → ℚ} {loaded : List (ℕ × Row PurchaseOrderItem)}
    (h : loaded.foldlM (writeInvoiced change) db = .ok db') :
    ∃ items, db' = { db with purchasing.orderItems := items } ∧
      InvoicedWritten change loaded db.purchasing.orderItems items := by
  refine foldlM_induct (fun done t => ∃ items, t = { db with purchasing.orderItems := items } ∧
    InvoicedWritten change done db.purchasing.orderItems items) h ?_ ?_
  · exact ⟨_, rfl, .refl _ fun i a _ => .inr ⟨List.not_mem_nil, rfl⟩⟩
  rintro done x rest t t' rfl ⟨items, rfl, hitems⟩ hstep
  obtain ⟨row, item, hrow, hitem, rfl⟩ := writeInvoiced_eq_ok.mp hstep
  refine ⟨items.set x.1 item, rfl, Overwritten.set hitems hrow (fun a ha => ?_) ?_⟩
  · have hval : item.val = { a.val with
        quantityInvoiced := x.2.val.quantityInvoiced + change x.1 } := by
      rcases ha with ⟨y, -, -, ha⟩ | ⟨-, rfl⟩
      · rw [hitem, ha]
      · exact hitem
    exact .inl ⟨x, List.mem_append_right _ List.mem_cons_self, rfl, hval⟩
  · rintro i a b hi (⟨y, hy, hyi, hb⟩ | ⟨hnot, rfl⟩)
    · exact .inl ⟨y, List.mem_append_left _ hy, hyi, hb⟩
    · refine .inr ⟨?_, rfl⟩
      rw [List.map_append, List.map_singleton, List.mem_append, List.mem_singleton]
      rintro (hmem | hmem)
      · exact hnot hmem
      · exact hi hmem

/-- What a posting writes: its matches, the invoiced quantities, the status, and its
journal entry. -/
theorem finishPosting_ok {req : PostPurchaseInvoice} {plan : PostingPlan}
    (h : finishPosting db req plan = .ok db') :
    ∃ rows items row posted,
      rows.map Subtype.val = plan.matched.flatMap LineMatch.rows ∧
      InvoicedWritten (requestedByItem plan.lines) plan.items db.purchasing.orderItems items ∧
      db.payables.invoices[req.purchaseInvoiceId]? = some row ∧
      posted.val = { row.val with status := .posted, postedAt := some req.today } ∧
      postPurchaseInvoiceJournal
        { db with
          purchasing.orderItems := items
          payables.receiptMatches := db.payables.receiptMatches ++ rows
          payables.invoices := db.payables.invoices.set req.purchaseInvoiceId posted }
        req.purchaseInvoiceId plan.invoice.val
        (ledgerQuantize (plan.matched.map (·.clearingRaw)).sum)
        (ledgerQuantize (plan.matched.map (·.varianceRaw)).sum) = .ok db' := by
  unfold finishPosting at h
  simp only [bind_eq_ok, orRaise_eq_ok, flush_eq_ok] at h
  obtain ⟨rows, hrows, d, hd, row, hrow, posted, hposted, h⟩ := h
  obtain ⟨items, rfl, hitems⟩ := writeInvoicedItems_ok hd
  refine ⟨rows, items, row, posted, ?_, hitems, hrow, hposted, h⟩
  have hvals := map_of_mapM hrows (g := Subtype.val) (k := id) fun l r hr => flush_eq_ok.mp hr
  rw [hvals, List.map_id]

theorem loadForVoid_ok {req : VoidPurchaseInvoice} {invoice : Row PurchaseInvoice}
    (h : loadForVoid db req = .ok (some invoice)) :
    db.payables.invoices[req.purchaseInvoiceId]? = some invoice ∧
      (invoice.val.status = .draft ∨ invoice.val.status = .posted) := by
  unfold loadForVoid at h
  simp only [↓check_bind_eq_ok, bind_eq_ok, orRaise_eq_ok] at h
  obtain ⟨i, hi, -, h⟩ := h
  split at h
  · rw [pure_eq_ok] at h
    cases h
  · next hvoided =>
    rw [check_bind_eq_ok, raiseIf_eq_ok, pure_eq_ok, Option.some.injEq] at h
    obtain ⟨hsettled, rfl⟩ := h
    refine ⟨hi, ?_⟩
    cases hstatus : i.val.status with
    | draft => exact .inl rfl
    | posted => exact .inr rfl
    | partiallyPaid => exact absurd (.inl hstatus) hsettled
    | paid => exact absurd (.inr hstatus) hsettled
    | voided => exact absurd hstatus hvoided

theorem planVoid_ok {req : VoidPurchaseInvoice} {lines : List (ℕ × Row PurchaseInvoiceLine)}
    {plan : VoidPlan} (h : planVoid db req lines = .ok plan) :
    plan.lines = lines ∧ LoadedItems db lines plan.items := by
  unfold planVoid at h
  simp only [bind_eq_ok, pure_eq_ok] at h
  obtain ⟨amounts, -, items, hitems, rfl⟩ := h
  refine ⟨rfl, loadedItems_of_mapM hitems fun i x hx => ?_⟩
  simp only [bind_eq_ok, orRaise_eq_ok, pure_eq_ok] at hx
  obtain ⟨item, hitem, rfl⟩ := hx
  exact ⟨rfl, hitem⟩

theorem writeVoided_eq_ok {req : VoidPurchaseInvoice} :
    writeVoided db req = .ok db' ↔ ∃ row voided,
      db.payables.invoices[req.purchaseInvoiceId]? = some row ∧
      voided.val = { row.val with status := .voided, voidedAt := some req.today } ∧
      db' = { db with
        payables.invoices := db.payables.invoices.set req.purchaseInvoiceId voided } := by
  unfold writeVoided
  simp only [bind_eq_ok, orRaise_eq_ok, flush_eq_ok, pure_eq_ok, @eq_comm _ _ db', exists_and_left]

/-- What the void of a posted invoice writes: the invoiced quantities, its journal entry,
and the status. -/
theorem finishVoid_ok {req : VoidPurchaseInvoice} {invoice : Row PurchaseInvoice}
    {plan : VoidPlan} (h : finishVoid db req invoice plan = .ok db') :
    ∃ items d row voided,
      InvoicedWritten (fun i => -requestedByItem plan.lines i) plan.items
        db.purchasing.orderItems items ∧
      postPurchaseInvoiceVoidJournal { db with purchasing.orderItems := items }
        req.purchaseInvoiceId invoice.val plan.clearingAmount plan.priceVarianceAmount req.today
          = .ok d ∧
      db.payables.invoices[req.purchaseInvoiceId]? = some row ∧
      voided.val = { row.val with status := .voided, voidedAt := some req.today } ∧
      db' = { d with
        payables.invoices := db.payables.invoices.set req.purchaseInvoiceId voided } := by
  unfold finishVoid at h
  simp only [bind_eq_ok] at h
  obtain ⟨e, he, d, hd, h⟩ := h
  obtain ⟨items, rfl, hitems⟩ := writeInvoicedItems_ok he
  obtain ⟨row, voided, hrow, hvoided, rfl⟩ := writeVoided_eq_ok.mp h
  have hframe := postJournalUnlessEmpty_frame hd
  have hinvoices : d.payables.invoices = db.payables.invoices := by rw [hframe]
  rw [hinvoices] at hrow
  exact ⟨items, d, row, voided, hitems, hd, hrow, hvoided, by rw [hinvoices]⟩

end Inversion

end GroceryErp
