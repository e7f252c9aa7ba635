import GroceryErp.Sales.Finalize

/-!
# Returns and voids

A return gives back part of a completed sale: it is priced from the frozen sale
items, passes the approval gate, restocks, and posts the mirror of the sale's
entry.  A void is a return of everything that remains.

## Main definitions

* `proportionalShare`, `computeLineRefund` — what one returned line refunds.
* `resolveReturnApproval` — the approval gate.
* `planReturn` — the checks on a request, and its merged lines.
* `createSaleReturn`, `voidSale` — the service functions.

## References

`backend/app/modules/sales/service.py`, `create_sale_return`, `void_sale`.
-/

namespace GroceryErp

open Decimal Ledger Outcome Rows

/-! ### Refunds -/

/-- `_proportional_share`: the rounded entitlement after the return less the
rounded entitlement before it. -/
def proportionalShare (total originalQty alreadyReturnedQty thisReturnQty : ℚ) : ℚ :=
  if total = 0 then 0 else
    let entitledAfter := roundMoney (total * (alreadyReturnedQty + thisReturnQty) / originalQty)
    let entitledBefore := roundMoney (total * alreadyReturnedQty / originalQty)
    entitledAfter - entitledBefore

structure LineRefund where
  refundPrice : ℚ
  discountRefunded : ℚ
  taxRefunded : ℚ
  deriving DecidableEq

/-- The fourth component that `_compute_line_refund` returns: the price without its discount, and
with its tax. -/
def LineRefund.amount (r : LineRefund) : ℚ := r.refundPrice - r.discountRefunded + r.taxRefunded

/-- `_compute_line_refund`: the price of what goes back, with its share of the discount and of the
tax. -/
def computeLineRefund (item : SaleItem) (requestedQty : ℚ) : LineRefund where
  refundPrice := roundMoney (item.unitPriceAtSale * requestedQty)
  discountRefunded :=
    proportionalShare item.discountAmount item.quantity item.quantityReturned requestedQty
  taxRefunded := proportionalShare item.taxAmount item.quantity item.quantityReturned requestedQty

/-! ### Requests -/

structure SaleReturnLineInput where
  saleItemId : ℕ
  quantity : ℚ
  restock : Bool := true

structure CreateSaleReturn where
  saleId : ℕ
  storeId : ℕ
  returnDate : Date
  lines : List SaleReturnLineInput
  refundMethod : PaymentMethod
  clientTransactionId : String
  callerStoreId : Option ℕ
  createdBy : Option ℕ := none
  approverUsername : Option String := none
  approverPassword : Option String := none

/-- `_match_or_reject_idempotent_return`.  Comparing two sorted signatures is
asking whether one is a permutation of the other. -/
def matchOrRejectIdempotentReturn (db : Db) (req : CreateSaleReturn) : Result (Option ℕ) := do
  match ← scalarOneOrNone
      (rowsWhere (·.val.clientTransactionId = req.clientTransactionId) db.sales.returns) with
  | none => return none
  | some (returnId, existing) => do
    let existingItems := db.sales.returnItems.filter (·.val.saleReturnId = returnId)
    let existingSignature : List (ℕ × ℚ × Bool) :=
      existingItems.map fun i => (i.val.saleItemId, i.val.quantity, i.val.restock)
    let requestedSignature : List (ℕ × ℚ × Bool) :=
      req.lines.map fun l => (l.saleItemId, l.quantity, l.restock)
    raiseIf (existing.val.saleId ≠ req.saleId ∨ existing.val.refundMethod ≠ req.refundMethod ∨
      ¬existingSignature.Perm requestedSignature) (.conflict .idempotencyKeyConflict)
    return some returnId

/-! ### The approval gate -/

/-- `verify_user_credentials`: the id and the row of the user, if the password is
right and the user active. -/
def verifyUserCredentials (db : Db) (username password : String) : Result (Option (ℕ × User)) := do
  let found ← scalarOneOrNone (rowsWhere (·.username = username) db.master.users)
  return found.filter fun u => u.2.isActive && u.2.verifyPassword password

/-- `_resolve_return_approval`: whether approval was required, and who approved. -/
def resolveReturnApproval (db : Db) (storeId : ℕ) (store : Store) (refundAmount : ℚ)
    (req : CreateSaleReturn) : Result (Bool × Option ℕ) :=
  match store.returnApprovalThresholdAmount with
  | none => return (false, none)
  | some threshold =>
    if refundAmount < threshold then return (false, none) else do
      let username := req.approverUsername.getD ""
      let password := req.approverPassword.getD ""
      raiseIf (username = "" ∨ password = "") (.forbidden .approvalRequired)
      let (approverId, approver) ←
        orRaise (← verifyUserCredentials db username password)
          (.unauthorized .invalidApproverCredentials)
      raiseIf (some approverId = req.createdBy) (.forbidden .selfApprovalNotAllowed)
      raiseIf (¬approver.salesReturnApprove) (.forbidden .approvalPermissionDenied)
      enforceStoreAccess approver.storeId storeId
      return (true, some approverId)

/-! ### Planning a return -/

/-- One line of a return: a sale item as loaded, and the merged request for it. -/
structure ReturnLine where
  saleItemId : ℕ
  item : Row SaleItem
  quantity : ℚ
  restock : Bool

/-- What the line refunds, given what had been returned of the item before. -/
def ReturnLine.refund (l : ReturnLine) : LineRefund := computeLineRefund l.item.val l.quantity

/-- The quantity requested of an item, over all the lines that name it. -/
def requestedQty (lines : List SaleReturnLineInput) (saleItemId : ℕ) : ℚ :=
  sumWhere (·.saleItemId = saleItemId) (·.quantity) lines

/-- The merged request for one item; one restocking line restocks the item. -/
def mergeReturnLine (db : Db) (req : CreateSaleReturn) (saleItemId : ℕ) : Result ReturnLine := do
  let item ← orRaise db.sales.items[saleItemId]? .notFound
  raiseIf (item.val.saleId ≠ req.saleId) .notFound
  return {
    saleItemId
    item
    quantity := requestedQty req.lines saleItemId
    restock := req.lines.any fun l => l.saleItemId = saleItemId && l.restock }

/-- The checks of `create_sale_return` before the approval gate, and the merged
lines, in the order the request first names the items. -/
def planReturn (db : Db) (req : CreateSaleReturn) : Result (Row Sale × List ReturnLine) := do
  raiseIf (req.lines = []) (.validation .emptyReturn)
  req.lines.forM fun line => raiseIf (line.quantity ≤ 0) (.validation .invalidQuantity)
  db.sales.sales[req.saleId]?.toList.forM fun sale =>
    enforceStoreAccess req.callerStoreId sale.val.storeId
  let sale ← orRaise db.sales.sales[req.saleId]? .notFound
  raiseIf (sale.val.storeId ≠ req.storeId) (.conflict .storeMismatch)
  raiseIf (sale.val.status ≠ .completed ∧ sale.val.status ≠ .partiallyRefunded)
    (.conflict .saleNotReturnable)
  let lines ← (distinct (req.lines.map (·.saleItemId))).mapM (mergeReturnLine db req)
  lines.forM fun l =>
    raiseIf (l.quantity > l.item.val.quantity - l.item.val.quantityReturned)
      (.conflict .excessiveReturnQuantity)
  return (sale, lines)

/-- The refund of a whole request, as the gate sums it. -/
def totalRefund (lines : List ReturnLine) : ℚ := (lines.map (·.refund.amount)).sum

/-! ### Writing the return -/

/-- The return item as its columns keep it. -/
def ReturnLine.row (l : ReturnLine) (saleReturnId : ℕ) : SaleReturnItem where
  saleReturnId := saleReturnId
  saleItemId := l.saleItemId
  quantity := numeric 3 l.quantity
  unitPriceRefunded := l.item.val.unitPriceAtSale
  discountRefunded := numeric 2 l.refund.discountRefunded
  taxRefunded := numeric 2 l.refund.taxRefunded
  unitCostRefunded := l.item.val.unitCostAtSale
  restock := l.restock

/-- The stock movement of a restocked line, at the average cost it leads to. -/
def ReturnLine.movement (l : ReturnLine) (storeId saleReturnId : ℕ) (product : Product) :
    MovementInput where
  storeId := storeId
  movementType := .saleReturn
  quantityDelta := l.quantity
  unitCostAtMovement := l.item.val.unitCostAtSale
  referenceType := .saleReturn
  referenceId := some saleReturnId
  newProductCost := some (computeNewWac product.currentQtyOnHand product.currentCost l.quantity
    l.item.val.unitCostAtSale)

/-- The line's values for the journal: what is refunded of price, discount and tax, and the cost,
which counts where it goes back to the shelf. -/
def ReturnLine.effect (l : ReturnLine) : SaleReturnLineEffect where
  refundPrice := l.refund.refundPrice
  discountRefunded := l.refund.discountRefunded
  taxRefunded := l.refund.taxRefunded
  restock := l.restock
  quantity := l.quantity
  unitCostRefunded := l.item.val.unitCostAtSale

/-- A sale item once a quantity of it has been returned. -/
def SaleItem.afterReturn (i : SaleItem) (q : ℚ) : SaleItem :=
  { i with quantityReturned := numeric 3 (i.quantityReturned + q) }

/-- The restocking of a line, which moves stock only where the request asks for it. -/
def restockLine (storeId saleReturnId : ℕ) (db : Db) (l : ReturnLine) : Result Db :=
  if l.restock then do
    let product ← orRaise db.stock.products[l.item.val.productId]? .notFound
    recordMovement db l.item.val.productId (l.movement storeId saleReturnId product.val)
  else
    return db

/-- One line: its return item, its restocking, and the quantity returned. -/
def addReturnLine (storeId saleReturnId : ℕ) (db : Db) (l : ReturnLine) : Result Db := do
  let row ← flush (l.row saleReturnId)
  let db ← restockLine storeId saleReturnId db l
  let item ← flush (l.item.val.afterReturn l.quantity)
  return { db with
    sales.returnItems := db.sales.returnItems ++ [row]
    sales.items := db.sales.items.set l.saleItemId item }

/-- What the session holds as the quantity returned of an item. -/
def returnedInSession (lines : List ReturnLine) (i : ℕ × Row SaleItem) : ℚ :=
  i.2.val.quantityReturned + sumWhere (·.saleItemId = i.1) (·.quantity) lines

/-- The status of the sale after the return. -/
def advanceSaleStatus (db : Db) (saleId : ℕ) (lines : List ReturnLine) (status : SaleStatus) :
    SaleStatus :=
  let allItems := rowsWhere (·.val.saleId = saleId) db.sales.items
  if allItems ≠ [] ∧ ∀ i ∈ allItems, i.2.val.quantity ≤ returnedInSession lines i then .refunded
  else if ∃ i ∈ allItems, 0 < returnedInSession lines i then .partiallyRefunded
  else status

/-- The return header as its columns keep it. -/
def returnRow (req : CreateSaleReturn) (refundAmount : ℚ) (approval : Bool × Option ℕ)
    (shiftId : Option ℕ) : SaleReturn where
  saleId := req.saleId
  storeId := req.storeId
  clientTransactionId := req.clientTransactionId
  refundMethod := req.refundMethod
  refundAmount := numeric 2 refundAmount
  processedBy := req.createdBy
  approvedBy := approval.2
  approvalRequired := approval.1
  shiftId := shiftId
  returnDate := req.returnDate

/-- `post_sale_return_journal`: the refund against the accounts the sale was posted to; a return of
no value posts no entry. -/
def postSaleReturnJournal (db : Db) (req : CreateSaleReturn) (saleReturnId : ℕ)
    (effects : List SaleReturnLineEffect) : Result Db :=
  postJournalUnlessEmpty db req.storeId req.returnDate .saleReturn saleReturnId
    (saleReturnJournalLines req.refundMethod effects)

/-- The open shift of the user who processes the return, if any. -/
def processingShift (db : Db) : Option ℕ → Result (Option ℕ)
  | none => return none
  | some userId => activeShiftForCashier db userId

/-- The rows of a planned and approved return, in the order in which the source writes them. -/
def writeReturn (db : Db) (req : CreateSaleReturn) (sale : Row Sale) (lines : List ReturnLine)
    (approval : Bool × Option ℕ) : Result (Db × ℕ) := do
  let shiftId ← processingShift db req.createdBy
  let saleReturnId := db.sales.returns.length
  let saleReturn ← flush (returnRow req (totalRefund lines) approval shiftId)
  let saleAfter ← flush
    { sale.val with status := advanceSaleStatus db req.saleId lines sale.val.status }
  let db ← lines.foldlM (addReturnLine req.storeId saleReturnId) db
  return ({ db with
    sales.returns := db.sales.returns ++ [saleReturn]
    sales.sales := db.sales.sales.set req.saleId saleAfter }, saleReturnId)

/-- `create_sale_return`: the tables after the request, and the id of the return.
The second look-up of the key, under the lock on the sale, finds what the first
one found when requests run one at a time. -/
def createSaleReturn (db : Db) (req : CreateSaleReturn) : Result (Db × ℕ) := do
  match ← matchOrRejectIdempotentReturn db req with
  | some returnId => return (db, returnId)
  | none => do
    let (sale, lines) ← planReturn db req
    let store ← orRaise db.master.stores[req.storeId]? .notFound
    let approval ← resolveReturnApproval db req.storeId store (totalRefund lines) req
    let (db, saleReturnId) ← writeReturn db req sale lines approval
    let db ← postSaleReturnJournal db req saleReturnId (lines.map ReturnLine.effect)
    return (db, saleReturnId)

/-! ### Voids -/

structure VoidSale where
  saleId : ℕ
  storeId : ℕ
  returnDate : Date
  refundMethod : PaymentMethod
  clientTransactionId : String
  callerStoreId : Option ℕ
  createdBy : Option ℕ := none
  approverUsername : Option String := none
  approverPassword : Option String := none

/-- What remains of each item of a sale, restocked. -/
def remainingLines (db : Db) (saleId : ℕ) : List SaleReturnLineInput :=
  ((rowsWhere (·.val.saleId = saleId) db.sales.items).filter
      fun i => i.2.val.quantityReturned < i.2.val.quantity).map
    fun i => { saleItemId := i.1, quantity := i.2.val.quantity - i.2.val.quantityReturned }

/-- The return a void asks for. -/
def VoidSale.asReturn (db : Db) (req : VoidSale) : CreateSaleReturn where
  saleId := req.saleId
  storeId := req.storeId
  returnDate := req.returnDate
  lines := remainingLines db req.saleId
  refundMethod := req.refundMethod
  clientTransactionId := req.clientTransactionId
  callerStoreId := req.callerStoreId
  createdBy := req.createdBy
  approverUsername := req.approverUsername
  approverPassword := req.approverPassword

/-- `void_sale`: what remains of every item is returned. A sale with nothing left is refused before
the key of the request is looked up. -/
def voidSale (db : Db) (req : VoidSale) : Result (Db × ℕ) := do
  let sale ← orRaise db.sales.sales[req.saleId]? .notFound
  enforceStoreAccess req.callerStoreId sale.val.storeId
  raiseIf (remainingLines db req.saleId = []) (.conflict .nothingToVoid)
  createSaleReturn db (req.asReturn db)

/-! ### What a request that succeeds has done -/

section Inversion

variable {db db' : Db} {req : CreateSaleReturn} {sale : Row Sale} {lines : List ReturnLine}
  {storeId saleReturnId : ℕ}

theorem mergeReturnLine_eq_ok {saleItemId : ℕ} {l : ReturnLine} :
    mergeReturnLine db req saleItemId = .ok l ↔
      ∃ item, db.sales.items[saleItemId]? = some item ∧ item.val.saleId = req.saleId ∧
        l = {
          saleItemId
          item
          quantity := requestedQty req.lines saleItemId
          restock := req.lines.any fun l => l.saleItemId = saleItemId && l.restock } := by
  unfold mergeReturnLine
  simp only [↓check_bind_eq_ok, bind_eq_ok, orRaise_eq_ok, raiseIf_eq_ok, pure_eq_ok, ne_eq,
    not_not, @eq_comm _ _ l]

/-- What `planReturn` has checked of a line, in a form that the proofs about returns share. -/
structure ReturnLine.Planned (db : Db) (req : CreateSaleReturn) (l : ReturnLine) : Prop where
  loaded : db.sales.items[l.saleItemId]? = some l.item
  of_sale : l.item.val.saleId = req.saleId
  quantity_eq : l.quantity = requestedQty req.lines l.saleItemId
  quantity_pos : 0 < l.quantity
  quantity_le : l.quantity ≤ l.item.val.quantity - l.item.val.quantityReturned

theorem requestedQty_pos {ls : List SaleReturnLineInput} (h : ∀ l ∈ ls, 0 < l.quantity) {i : ℕ}
    (hi : i ∈ ls.map (·.saleItemId)) : 0 < requestedQty ls i := by
  induction ls with
  | nil => exact absurd hi List.not_mem_nil
  | cons a ls ih =>
    have ha := h a List.mem_cons_self
    have hrest : 0 ≤ requestedQty ls i :=
      sumWhere_nonneg fun l hl _ => (h l (List.mem_cons_of_mem _ hl)).le
    rw [requestedQty, sumWhere_cons]
    split
    · exact add_pos_of_pos_of_nonneg ha hrest
    · next hne =>
      rw [zero_add]
      rcases List.mem_cons.mp hi with hi | hi
      · exact absurd hi.symm hne
      · exact ih (fun l hl => h l (List.mem_cons_of_mem _ hl)) hi

theorem planReturn_ok (h : planReturn db req = .ok (sale, lines)) :
    db.sales.sales[req.saleId]? = some sale ∧ sale.val.storeId = req.storeId ∧
      (sale.val.status = .completed ∨ sale.val.status = .partiallyRefunded) ∧
      lines.map (·.saleItemId) = distinct (req.lines.map (·.saleItemId)) ∧
      ∀ l ∈ lines, l.Planned db req := by
  unfold planReturn at h
  simp only [↓check_bind_eq_ok, bind_eq_ok, orRaise_eq_ok, raiseIf_eq_ok, pure_eq_ok,
    Prod.mk.injEq, forM_raiseIf_eq_ok, ne_eq, not_and_or, not_not, gt_iff_lt, not_lt,
    not_le] at h
  obtain ⟨-, hpos, -, s, hs, hstore, hstatus, ls, hls, hle, rfl, rfl⟩ := h
  refine ⟨hs, hstore, hstatus, ?_, fun l hl => ?_⟩
  · have hids := @map_of_mapM _ _ _ _ _ (·.saleItemId) id _ _ hls fun i l hl => by
      obtain ⟨item, -, -, rfl⟩ := mergeReturnLine_eq_ok.mp hl
      rfl
    rw [hids, List.map_id]
  obtain ⟨i, hi, hmerge⟩ := exists_of_mem_mapM hls hl
  have hle := hle l hl
  obtain ⟨item, hitem, hsale, rfl⟩ := mergeReturnLine_eq_ok.mp hmerge
  exact ⟨hitem, hsale, rfl, requestedQty_pos hpos (mem_distinct.mp hi), hle⟩

/-- The lines of a planned return are merged one by one. -/
theorem planReturn_merged (h : planReturn db req = .ok (sale, lines)) :
    (distinct (req.lines.map (·.saleItemId))).mapM (mergeReturnLine db req) = .ok lines := by
  unfold planReturn at h
  simp only [↓check_bind_eq_ok, bind_eq_ok, orRaise_eq_ok, raiseIf_eq_ok, pure_eq_ok,
    Prod.mk.injEq, forM_raiseIf_eq_ok, ne_eq, not_and_or, not_not, gt_iff_lt, not_lt,
    not_le] at h
  obtain ⟨-, -, -, s, -, -, -, ls, hls, -, -, rfl⟩ := h
  exact hls

theorem restockLine_eq_ok {l : ReturnLine} :
    restockLine storeId saleReturnId db l = .ok db' ↔
      (l.restock ∧ ∃ product, db.stock.products[l.item.val.productId]? = some product ∧
        recordMovement db l.item.val.productId (l.movement storeId saleReturnId product.val)
          = .ok db') ∨
      (¬l.restock ∧ db' = db) := by
  unfold restockLine
  cases l.restock with
  | true => simp
  | false => simp [pure_eq_ok, @eq_comm _ db']

theorem restockLine_frame {l : ReturnLine}
    (h : restockLine storeId saleReturnId db l = .ok db') :
    db' = { db with stock := db.stock.moved db'.stock } := by
  rcases restockLine_eq_ok.mp h with ⟨-, product, -, h⟩ | ⟨-, rfl⟩
  · exact recordMovement_frame h
  · rfl

theorem addReturnLine_eq_ok {l : ReturnLine} :
    addReturnLine storeId saleReturnId db l = .ok db' ↔
      ∃ row d item, row.val = l.row saleReturnId ∧
        restockLine storeId saleReturnId db l = .ok d ∧
        item.val = l.item.val.afterReturn l.quantity ∧
        db' = { d with
          sales.returnItems := d.sales.returnItems ++ [row]
          sales.items := d.sales.items.set l.saleItemId item } := by
  unfold addReturnLine
  simp only [bind_eq_ok, flush_eq_ok, pure_eq_ok, @eq_comm _ _ db', exists_and_left]

/-- A restocked line books one movement, another none: what is not fit for sale does not come back
on the shelf. -/
def ReturnLine.Books (l : ReturnLine) (storeId saleReturnId : ℕ) (bs : List Booking) : Prop :=
  (l.restock ∧ BooksOne l.item.val.productId (l.movement storeId saleReturnId) bs) ∨
    (¬l.restock ∧ bs = [])

theorem bookedAll_of_addReturnLine {l : ReturnLine}
    (h : addReturnLine storeId saleReturnId db l = .ok db') :
    ∃ bs, l.Books storeId saleReturnId bs ∧ BookedAll bs db.stock db'.stock := by
  obtain ⟨_, d, _, -, hd, -, rfl⟩ := addReturnLine_eq_ok.mp h
  rcases restockLine_eq_ok.mp hd with ⟨hrestock, product, hproduct, hm⟩ | ⟨hno, rfl⟩
  · obtain ⟨bs, hbs, hrun⟩ := exists_booksOne hproduct hm
    exact ⟨bs, .inl ⟨hrestock, hbs⟩, hrun⟩
  · exact ⟨[], .inr ⟨hno, rfl⟩, .refl _⟩

/-- The lines of a return write its items, the items of the sale, and stock. -/
theorem addReturnLines_frame (h : lines.foldlM (addReturnLine storeId saleReturnId) db = .ok db') :
    ∃ t, db' = { db with
      stock := db.stock.moved t
      sales.items := db'.sales.items
      sales.returnItems := db'.sales.returnItems } := by
  refine foldlM_induct (fun _ d => ∃ t, d = { db with
    stock := db.stock.moved t
    sales.items := d.sales.items
    sales.returnItems := d.sales.returnItems }) h ⟨db.stock, rfl⟩ ?_
  rintro done l rest d d' - ⟨t, ht⟩ hstep
  obtain ⟨row, u, item, -, hu, -, rfl⟩ := addReturnLine_eq_ok.mp hstep
  refine ⟨u.stock, ?_⟩
  rw [restockLine_frame hu, ht]
  rfl

/-- What writing a return leaves, after the lines have been added to `d`. -/
theorem writeReturn_ok {approval : Bool × Option ℕ}
    (h : writeReturn db req sale lines approval = .ok (db', saleReturnId)) :
    saleReturnId = db.sales.returns.length ∧ ∃ shiftId saleReturn saleAfter d,
      saleReturn.val = returnRow req (totalRefund lines) approval shiftId ∧
      saleAfter.val
        = { sale.val with status := advanceSaleStatus db req.saleId lines sale.val.status } ∧
      lines.foldlM (addReturnLine req.storeId saleReturnId) db = .ok d ∧
      db' = { d with
        sales.returns := d.sales.returns ++ [saleReturn]
        sales.sales := d.sales.sales.set req.saleId saleAfter } := by
  unfold writeReturn at h
  simp only [bind_eq_ok, flush_eq_ok, pure_eq_ok, Prod.mk.injEq] at h
  obtain ⟨shiftId, -, saleReturn, hreturn, saleAfter, hafter, d, hd, rfl, rfl⟩ := h
  exact ⟨rfl, shiftId, saleReturn, saleAfter, d, hreturn, hafter, hd, rfl⟩

/-- A request that is not a replay is planned, approved, written and posted. -/
theorem createSaleReturn_ok (h : createSaleReturn db req = .ok (db', saleReturnId)) :
    (matchOrRejectIdempotentReturn db req = .ok (some saleReturnId) ∧ db' = db) ∨
    (matchOrRejectIdempotentReturn db req = .ok none ∧ ∃ sale lines store approval d,
      planReturn db req = .ok (sale, lines) ∧
      db.master.stores[req.storeId]? = some store ∧
      resolveReturnApproval db req.storeId store (totalRefund lines) req = .ok approval ∧
      writeReturn db req sale lines approval = .ok (d, saleReturnId) ∧
      postSaleReturnJournal d req saleReturnId (lines.map ReturnLine.effect) = .ok db') := by
  unfold createSaleReturn at h
  rw [bind_eq_ok] at h
  obtain ⟨found, hfound, h⟩ := h
  cases found with
  | some i =>
    simp only [pure_eq_ok, Prod.mk.injEq] at h
    obtain ⟨rfl, rfl⟩ := h
    exact .inl ⟨hfound, rfl⟩
  | none =>
    simp only [bind_eq_ok, orRaise_eq_ok, pure_eq_ok, Prod.mk.injEq] at h
    obtain ⟨⟨sale, lines⟩, hplan, store, hstore, approval, happroval, ⟨d, i⟩, hwrite, d', hpost,
      rfl, rfl⟩ := h
    exact .inr ⟨hfound, sale, lines, store, approval, d, hplan, hstore, happroval, hwrite, hpost⟩

theorem voidSale_ok {req : VoidSale} (h : voidSale db req = .ok (db', saleReturnId)) :
    createSaleReturn db (req.asReturn db) = .ok (db', saleReturnId) := by
  unfold voidSale at h
  simp only [↓check_bind_eq_ok, bind_eq_ok, orRaise_eq_ok, raiseIf_eq_ok] at h
  obtain ⟨sale, -, -, -, h⟩ := h
  exact h

end Inversion

/-- The restocked goods of a return, line by line. -/
theorem restockedLines_effects (lines : List ReturnLine) :
    restockedLines (lines.map ReturnLine.effect)
      = (lines.filter fun l => l.restock).map fun l => (l.quantity, l.item.val.unitCostAtSale) := by
  rw [restockedLines, List.filter_map, List.map_map]
  rfl

theorem restockedValue_nonneg {lines : List ReturnLine} (h : ∀ l ∈ lines, 0 < l.quantity) :
    0 ≤ valueOfLines (restockedLines (lines.map ReturnLine.effect)) := by
  refine valueOfLines_nonneg fun x hx => ?_
  rw [restockedLines_effects] at hx
  obtain ⟨l, hl, rfl⟩ := List.mem_map.mp hx
  exact ⟨(h l (List.mem_of_mem_filter hl)).le, l.item.property.cost_nonneg⟩

/-- What the restocked goods are worth, line by line. -/
theorem restockedValue_eq (lines : List ReturnLine) :
    valueOfLines (restockedLines (lines.map ReturnLine.effect))
      = (lines.map fun l => if l.restock then
          ledgerQuantize (l.quantity * l.item.val.unitCostAtSale) else 0).sum := by
  have hpicked := sum_picked lines (fun l => l.restock = true)
    fun l => (l.quantity, l.item.val.unitCostAtSale)
  rw [restockedLines_effects, hpicked]
  simp only [Bool.decide_eq_true]

/-! ### Shares -/

/-- A share of a nonnegative total is nonnegative: the entitlement only grows. -/
theorem proportionalShare_nonneg {total originalQty already this : ℚ} (ht : 0 ≤ total)
    (ho : 0 < originalQty) (hthis : 0 ≤ this) :
    0 ≤ proportionalShare total originalQty already this := by
  unfold proportionalShare
  split
  · exact le_rfl
  · have hmono : total * already / originalQty ≤ total * (already + this) / originalQty := by
      gcongr
      linarith
    exact sub_nonneg.mpr (quantize_mono hmono)

theorem onGrid_proportionalShare (total originalQty already this : ℚ) :
    OnGrid 2 (proportionalShare total originalQty already this) := by
  unfold proportionalShare
  split
  · exact onGrid_zero 2
  · exact (onGrid_quantize 2 _).sub (onGrid_quantize 2 _)

end GroceryErp
